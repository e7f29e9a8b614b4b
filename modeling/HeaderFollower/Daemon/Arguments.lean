/-
# Arguments

The arguments of the program: long names begin with two dashes and short ones with one; a value
stands behind an equals sign or in the next argument, for a short name also right behind it; short
names without a value may stand together. Nothing may be given twice.
-/

import HeaderFollower.Network

namespace HeaderFollower

/-- What the arguments say. -/
structure Arguments where
  /-- The configuration file. -/
  config : String := "config.toml"
  network : Option Network := none
  server : Option String := none
  tls : Bool := false
  verbose : Bool := false
  /-- Only write a configuration file. -/
  generate : Bool := false
  deriving DecidableEq, Repr

/-- What an argument is about. -/
inductive Setting where
  | config
  | network
  | server
  | tls
  | verbose
  | generate
  | help
  deriving DecidableEq, Repr

/-- What there is to do. -/
inductive Usage where
  | run (arguments : Arguments)
  | help
  /-- The arguments cannot be understood. -/
  | wrong
  deriving DecidableEq, Repr

namespace Setting

/-- The setting with a long name. -/
def ofLong? (name : String) : Option Setting :=
  [("config", config), ("network", network), ("server", server), ("tls", tls),
    ("verbose", verbose), ("generate-config", generate), ("help", help)].lookup name

/-- The setting with a short name. -/
def ofShort? : Char → Option Setting
  | 'c' => some config
  | 'v' => some verbose
  | 'h' => some help
  | _ => none

def takesValue : Setting → Bool
  | config => true
  | network => true
  | server => true
  | _ => false

/-- The arguments with a value given to the setting. -/
def assign? (value : String) (a : Arguments) : Setting → Option Arguments
  | config => if value = "" then none else some { a with config := value }
  | network =>
    match Network.ofName value with
    | .ok n => some { a with network := some n }
    | .error _ => none
  | server => some { a with server := some value }
  | _ => none

/-- The arguments with the setting switched on. -/
def switch (a : Arguments) : Setting → Arguments
  | tls => { a with tls := true }
  | verbose => { a with verbose := true }
  | generate => { a with generate := true }
  | _ => a

end Setting

namespace Arguments

/-- What has been read of the arguments. -/
structure Scan where
  arguments : Arguments := {}
  given : List Setting := []
  /-- The setting whose value is to come. -/
  expecting : Option Setting := none

/-- Takes the value of a setting. -/
def Scan.value (s : Scan) (setting : Setting) (value : String) : Option Scan :=
  (setting.assign? value s.arguments).map fun arguments =>
    { s with arguments, expecting := none }

/-- Marks a setting as given. -/
def Scan.mark (s : Scan) (setting : Setting) : Option Scan :=
  if setting ∈ s.given then none else some { s with given := setting :: s.given }

/-- Takes a setting that stands alone, a value still to come if it needs one. -/
def Scan.bare (s : Scan) (setting : Setting) : Option Scan :=
  (s.mark setting).map fun s =>
    if setting.takesValue then { s with expecting := some setting }
    else { s with arguments := setting.switch s.arguments }

/-- What short names that stand together come to: help if it is among them before a fault. -/
inductive Outcome where
  | scanned (scan : Scan)
  | help
  | wrong

def Outcome.ofOption : Option Scan → Outcome
  | some s => .scanned s
  | none => .wrong

/-- Takes short names that stand together. -/
def Scan.short (s : Scan) : List Char → Outcome
  | [] => .scanned s
  | c :: rest =>
    match Setting.ofShort? c with
    | none => .wrong
    | some .help => .help
    | some setting =>
      if setting.takesValue ∧ rest ≠ [] then
        let value := if rest.head? = some '=' then rest.drop 1 else rest
        .ofOption ((s.mark setting).bind fun s => s.value setting (String.ofList value))
      else
        match s.bare setting with
        | some s => s.short rest
        | none => .wrong

/-- Takes a long name, perhaps with a value behind an equals sign. -/
def Scan.long (s : Scan) (text : List Char) : Outcome :=
  let name := String.ofList (text.takeWhile (· ≠ '='))
  match Setting.ofLong? name, text.dropWhile (· ≠ '=') with
  | none, _ => .wrong
  | some .help, [] => .help
  | some setting, [] => .ofOption (s.bare setting)
  | some setting, _ :: value =>
    if setting.takesValue then
      .ofOption ((s.mark setting).bind fun s => s.value setting (String.ofList value))
    else .wrong

/-- Takes the next argument. -/
def Scan.next (s : Scan) (argument : String) : Outcome :=
  match s.expecting, argument.toList with
  | some setting, ['-'] => .ofOption (s.value setting "-")
  | some _, '-' :: _ => .wrong
  | some setting, _ => .ofOption (s.value setting argument)
  | none, '-' :: '-' :: [] => .scanned s
  | none, '-' :: '-' :: name => s.long name
  | none, '-' :: c :: rest => s.short (c :: rest)
  | none, _ => .wrong

/-- Takes all arguments. Behind two dashes alone nothing may follow. -/
def Scan.all (s : Scan) : List String → Usage
  | [] => if s.expecting.isSome then .wrong else .run s.arguments
  | argument :: rest =>
    if s.expecting.isNone ∧ argument = "--" ∧ rest ≠ [] then .wrong
    else
      match s.next argument with
      | .scanned s => s.all rest
      | .help => .help
      | .wrong => .wrong

/-- What the arguments ask for. -/
def read (arguments : List String) : Usage := ({} : Scan).all arguments

/-- How the program is used. -/
def help : String :=
  "\n".intercalate [
    "ElectrumX header-sync daemon",
    "",
    "Usage: exsyncd [OPTIONS]",
    "",
    "Options:",
    "  -c, --config <CONFIG>    [default: config.toml]",
    "      --network <NETWORK>  mainnet, testnet or regtest (overrides the config file)",
    "      --server <SERVER>    Server address, e.g. ssl://host:50002 (overrides the config file)",
    "      --tls                Use TLS for addresses without a scheme",
    "  -v, --verbose            ",
    "      --generate-config    ",
    "  -h, --help               Print help"]

end Arguments
end HeaderFollower

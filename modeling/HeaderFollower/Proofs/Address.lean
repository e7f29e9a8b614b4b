/-
# Addresses that are read back

A host may hold any characters but a slash, so the text of an address need not name the address again:
brackets around a host with a colon end at the first closing bracket, and a host that begins with an
opening bracket is taken for one in brackets. `ServerAddress.Legible` holds of the other hosts, and
`ServerAddress.parse_display` says that exactly their addresses are read back, with any network and
any default, and that what is written of another names no address.
-/

import HeaderFollower.Address

namespace HeaderFollower
namespace Text

variable {c d : Char} {s before behind : List Char} {bound n : Nat}

/-! ## Splitting -/

theorem splitFirst?_cons :
    splitFirst? c (d :: s) =
      if d = c then some ([], s) else (splitFirst? c s).map fun (b, r) => (d :: b, r) := by
  by_cases h : d = c
  · simp [splitFirst?, h]
  · rw [splitFirst?, splitFirst?, List.dropWhile_cons_of_pos (by simpa using h),
      List.takeWhile_cons_of_pos (by simpa using h), if_neg h]
    split <;> simp_all

theorem splitFirst?_append (h : c ∉ before) :
    splitFirst? c (before ++ c :: behind) = some (before, behind) := by
  induction before with
  | nil => simp [splitFirst?_cons]
  | cons d rest ih =>
    rw [List.mem_cons, not_or] at h
    rw [List.cons_append, splitFirst?_cons, if_neg (Ne.symm h.1), ih h.2]
    rfl

theorem splitFirst?_eq_none_iff : splitFirst? c s = none ↔ c ∉ s := by
  induction s with
  | nil => simp [splitFirst?]
  | cons d rest ih =>
    rw [splitFirst?_cons, List.mem_cons, not_or, ← ih]
    split
    · next h => simp [h]
    · next h => simp [Ne.symm h]

/-- A text is split at the first `c`, if it has one. -/
theorem splitFirst?_eq_some_iff :
    splitFirst? c s = some (before, behind) ↔ s = before ++ c :: behind ∧ c ∉ before := by
  constructor
  · intro h
    have hmem : c ∈ s := Classical.not_not.1 fun hc => by
      cases (splitFirst?_eq_none_iff.2 hc).symm.trans h
    obtain ⟨first, rest, rfl, hc⟩ := List.eq_append_cons_of_mem hmem
    rw [splitFirst?_append hc] at h
    cases h
    exact ⟨rfl, hc⟩
  · rintro ⟨rfl, hc⟩
    exact splitFirst?_append hc

/-- A text is split at the last `c`, if it has one. -/
theorem splitLast?_eq_some_iff :
    splitLast? c s = some (before, behind) ↔ s = before ++ c :: behind ∧ c ∉ behind := by
  have hreverse : splitLast? c s = some (before, behind) ↔
      splitFirst? c s.reverse = some (behind.reverse, before.reverse) := by
    rw [splitLast?]
    split
    · simp_all
    · next first last h =>
      rw [h, Option.some.injEq, Option.some.injEq, Prod.mk.injEq, Prod.mk.injEq]
      exact ⟨fun ⟨h₁, h₂⟩ => by simp [← h₁, ← h₂], fun ⟨h₁, h₂⟩ => by simp [h₁, h₂]⟩
  rw [hreverse, splitFirst?_eq_some_iff, List.mem_reverse, List.reverse_eq_iff]
  simp

/-! ## Numerals -/

theorem lt_of_digitsBelow? (h : digitsBelow? bound s = some n) : n < bound := by
  rw [digitsBelow?] at h
  split at h
  · dsimp only at h
    split at h
    · next hlt => exact Option.some.inj h ▸ hlt
    · cases h
  · cases h

theorem lt_of_numeralBelow? (h : numeralBelow? bound s = some n) : n < bound := by
  unfold numeralBelow? at h
  split at h
  · exact lt_of_digitsBelow? h
  · exact lt_of_digitsBelow? h

theorem isDigit_of_mem_toString (h : c ∈ (toString n).toList) : c.isDigit = true := by
  rw [Nat.toString_eq_repr, Nat.toList_repr] at h
  exact Nat.isDigit_of_mem_toDigits (by decide) (by decide) h

theorem toString_ne_nil (n : Nat) : (toString n).toList ≠ [] := by
  rw [Nat.toString_eq_repr, Nat.toList_repr]
  exact Nat.toDigits_ne_nil

/-- A number below the bound is read back. -/
theorem numeralBelow?_toString (h : n < bound) :
    numeralBelow? bound (toString n).toList = some n := by
  have hdigits : digitsBelow? bound (toString n).toList = some n := by
    have hall : (toString n).toList.all Char.isDigit = true :=
      List.all_eq_true.2 fun _ => isDigit_of_mem_toString
    have hvalue : (toString n).toList.foldl (fun n c => n * 10 + (c.toNat - 48)) 0 = n := by
      rw [Nat.toString_eq_repr, Nat.toList_repr]
      refine Eq.trans ?_ (Nat.ofDigitChars_ten_toDigits (n := n))
      simp [Nat.ofDigitChars, Nat.mul_comm]
    rw [digitsBelow?, if_pos ⟨toString_ne_nil n, hall⟩]
    dsimp only
    rw [hvalue, if_pos h]
  unfold numeralBelow?
  split
  · next rest heq =>
    have hplus : '+' ∈ (toString n).toList := by
      rw [heq]
      exact List.mem_cons_self
    exact absurd (isDigit_of_mem_toString hplus) (by decide)
  · exact hdigits

/-- A numeral has nothing but digits behind a plus. -/
theorem numeralBelow?_eq_none (hc : c ∈ s) (hdigit : c.isDigit = false) (hplus : c ≠ '+') :
    numeralBelow? bound s = none := by
  have hnone {s : List Char} (hc : c ∈ s) : digitsBelow? bound s = none := by
    rw [digitsBelow?, if_neg]
    rintro ⟨-, hall⟩
    rw [List.all_eq_true.1 hall c hc] at hdigit
    cases hdigit
  unfold numeralBelow?
  split
  · exact hnone ((List.mem_cons.1 hc).resolve_left hplus)
  · exact hnone hc

/-! ## Ends -/

theorem isBlank_of_isDigit (h : c.isDigit = true) : isBlank c = false := by
  rw [Char.isDigit, Bool.and_eq_true, decide_eq_true_eq, decide_eq_true_eq] at h
  have hlow : 48 ≤ c.toNat := UInt32.le_iff_toNat_le.1 h.1
  have hhigh : c.toNat ≤ 57 := UInt32.le_iff_toNat_le.1 h.2
  simp only [isBlank, Bool.or_eq_false_iff, Bool.and_eq_false_iff, decide_eq_false_iff_not,
    beq_eq_false_iff_ne]
  omega

/-- A text that begins and ends with no white space is left as it is. -/
theorem trim_eq_self {t : String} {first last : Char} (hfirst : t.toList.head? = some first)
    (hlast : t.toList.getLast? = some last) (hf : isBlank first = false) (hl : isBlank last = false) :
    trim t = t := by
  have hkeep {s : List Char} {c : Char} (hhead : s.head? = some c) (hc : isBlank c = false) :
      s.dropWhile isBlank = s := by
    obtain ⟨rest, rfl⟩ := List.head?_eq_some_iff.1 hhead
    exact List.dropWhile_cons_of_neg (by simp [hc])
  rw [trim, hkeep hfirst hf, hkeep (List.head?_reverse ▸ hlast) hl, List.reverse_reverse,
    String.ofList_toList]

end Text

namespace ServerAddress

open Text

variable {text : String} {network : Network} {tlsDefault : Bool} {a : ServerAddress}
  {fallback port : Nat} {host rest digits : List Char}

/-! ## Host and port -/

theorem defaultPort_lt (network : Network) (scheme : Scheme) :
    scheme.defaultPort network < 65536 := by
  cases network <;> cases scheme <;> decide

/-- What can be found behind the scheme: brackets hold no closing one, and without brackets a host does
not begin with an opening one. -/
theorem hostPort?_facts (hfallback : fallback < 65536)
    (h : hostPort? fallback rest = some (host, port)) :
    port < 65536 ∧ (host.head? = some '[' → ']' ∉ host) := by
  have hport {p : List Char} (hp : (port? p).map (fun port => (host, port)) = some (host, port)) :
      port < 65536 := by
    obtain ⟨n, hn, heq⟩ := Option.map_eq_some_iff.1 hp
    cases heq
    exact lt_of_numeralBelow? hn
  unfold hostPort? at h
  split at h
  · next inner =>
    rw [bracketed?] at h
    split at h
    · cases h
    · next hsplit =>
      cases h
      exact ⟨hfallback, fun _ => (splitFirst?_eq_some_iff.1 hsplit).2⟩
    · next inside p hsplit =>
      obtain ⟨n, hn, heq⟩ := Option.map_eq_some_iff.1 h
      cases heq
      exact ⟨lt_of_numeralBelow? hn, fun _ => (splitFirst?_eq_some_iff.1 hsplit).2⟩
    · cases h
  · next hopen =>
    have hhead : rest.head? ≠ some '[' := by
      intro hhead
      obtain ⟨inner, rfl⟩ := List.head?_eq_some_iff.1 hhead
      exact hopen inner rfl
    rw [plain?] at h
    split at h
    · cases h
      exact ⟨hfallback, fun hfirst => absurd hfirst hhead⟩
    · next before p hsplit =>
      obtain ⟨n, hn, heq⟩ := Option.map_eq_some_iff.1 h
      cases heq
      refine ⟨lt_of_numeralBelow? hn, fun hfirst => absurd ?_ hhead⟩
      rw [(splitLast?_eq_some_iff.1 hsplit).1, List.head?_append, hfirst]
      rfl

/-- What is known of an address that was read. -/
theorem facts_of_parse (h : parse text network tlsDefault = some a) :
    a.host.toList ≠ [] ∧ '/' ∉ a.host.toList ∧ a.port < 65536 ∧
      (a.host.toList.head? = some '[' → ']' ∉ a.host.toList) := by
  rw [parse] at h
  dsimp only at h
  split at h
  · cases h
  · next host port hparts =>
    obtain ⟨hport, hclosing⟩ := hostPort?_facts (defaultPort_lt network _) hparts
    split at h
    · cases h
    · next hhost =>
      rw [not_or] at hhost
      cases h
      rw [String.toList_ofList]
      exact ⟨hhost.1, hhost.2, hport, hclosing⟩

/-! ## Texts of addresses -/

/-- A host as it stands in the text of an address. -/
def written (host : List Char) : List Char := if ':' ∈ host then '[' :: (host ++ [']']) else host

theorem toList_display (a : ServerAddress) :
    a.display.toList =
      (if a.isTls then "ssl://" else "tcp://").toList ++
        (written a.host.toList ++ ':' :: (toString a.port).toList) := by
  rw [display, written]
  by_cases hcolon : ':' ∈ a.host.toList
  · rw [if_pos hcolon, if_pos hcolon]
    cases a.isTls <;> simp
  · rw [if_neg hcolon, if_neg hcolon]
    cases a.isTls <;> simp

/-- The text of an address has its scheme in front and no white space around it, so that the rest of
it names host and port. -/
theorem parse_display_eq (a : ServerAddress) (network : Network) (tlsDefault : Bool) :
    parse a.display network tlsDefault =
      match hostPort? (a.scheme.defaultPort network)
          (written a.host.toList ++ ':' :: (toString a.port).toList) with
      | none => none
      | some (host, port) =>
        if host = [] ∨ '/' ∈ host then none else some ⟨String.ofList host, port, a.scheme⟩ := by
  have htrim : trim a.display = a.display := by
    obtain ⟨last, hlast⟩ : ∃ last, (toString a.port).toList.getLast? = some last :=
      Option.ne_none_iff_exists'.1 fun hnil =>
        toString_ne_nil a.port (List.getLast?_eq_none_iff.1 hnil)
    have hdigit := isDigit_of_mem_toString (List.mem_of_getLast? hlast)
    have hhead : a.display.toList.head? = some (if a.isTls then 's' else 't') := by
      rw [toList_display]
      cases a.isTls <;> rfl
    have hend : a.display.toList.getLast? = some last := by
      rw [toList_display, List.getLast?_append, List.getLast?_append, List.getLast?_cons, hlast]
      rfl
    exact trim_eq_self hhead hend (by cases a.isTls <;> decide) (isBlank_of_isDigit hdigit)
  have hscheme (rest : List Char) :
      takeScheme tlsDefault ((if a.isTls then "ssl://" else "tcp://").toList ++ rest) =
        (a.scheme, rest) := by
    rw [isTls]
    cases a.scheme <;> rfl
  have hread : takeScheme tlsDefault (trim a.display).toList =
      (a.scheme, written a.host.toList ++ ':' :: (toString a.port).toList) := by
    rw [htrim, toList_display, hscheme]
  unfold parse
  exact hread ▸ rfl

/-- Host and port are told apart by the last colon if the host does not begin with a bracket. -/
theorem hostPort?_plain (hopen : host.head? ≠ some '[') (hhost : host ≠ []) (hport : port < 65536) :
    hostPort? fallback (host ++ ':' :: (toString port).toList) = some (host, port) := by
  have hsplit : splitLast? ':' (host ++ ':' :: (toString port).toList) =
      some (host, (toString port).toList) :=
    splitLast?_eq_some_iff.2 ⟨rfl, fun hmem => absurd (isDigit_of_mem_toString hmem) (by decide)⟩
  unfold hostPort?
  split
  · next inner heq =>
    obtain ⟨first, rest, rfl⟩ := List.exists_cons_of_ne_nil hhost
    obtain rfl := (List.cons.inj heq).1
    exact absurd rfl hopen
  · have hread : port? (toString port).toList = some port := numeralBelow?_toString hport
    rw [plain?, hsplit]
    exact congrArg (Option.map fun port => (host, port)) hread

/-- A host in brackets is read if it has no closing bracket. -/
theorem hostPort?_bracketed (hclosing : ']' ∉ host) (hport : port < 65536) :
    hostPort? fallback ('[' :: (host ++ [']']) ++ ':' :: (toString port).toList) =
      some (host, port) := by
  have hsplit : splitFirst? ']' (host ++ [']'] ++ ':' :: (toString port).toList) =
      some (host, ':' :: (toString port).toList) :=
    splitFirst?_eq_some_iff.2 ⟨by simp, hclosing⟩
  have hread : port? (toString port).toList = some port := numeralBelow?_toString hport
  rw [List.cons_append, hostPort?, bracketed?, hsplit]
  exact congrArg (Option.map fun port => (host, port)) hread

/-- A host in brackets with a closing bracket of its own is not read. -/
theorem hostPort?_of_closing (hclosing : ']' ∈ host) :
    hostPort? fallback ('[' :: (host ++ [']']) ++ ':' :: digits) = none := by
  obtain ⟨first, behind, rfl, hfirst⟩ := List.eq_append_cons_of_mem hclosing
  have hsplit : splitFirst? ']' (first ++ ']' :: behind ++ [']'] ++ ':' :: digits) =
      some (first, behind ++ ']' :: ':' :: digits) :=
    splitFirst?_eq_some_iff.2 ⟨by simp, hfirst⟩
  rw [List.cons_append, hostPort?, bracketed?, hsplit]
  -- What stands behind the first closing bracket has another one, so it is no port.
  have hnone {p : List Char} (hp : ']' ∈ p) : port? p = none :=
    numeralBelow?_eq_none hp (by decide) (by decide)
  split
  · next heq => cases heq
  · next heq => simp at heq
  · next inside p heq =>
    obtain ⟨-, heq⟩ := Prod.mk.inj (Option.some.inj heq)
    have hmem : ']' ∈ ':' :: p := heq ▸ List.mem_append_right _ List.mem_cons_self
    rw [hnone ((List.mem_cons.1 hmem).resolve_left (by decide))]
    rfl
  · rfl

/-- A host that begins with a bracket and has no closing one is not read. -/
theorem hostPort?_of_opening (hopen : host.head? = some '[') (hclosing : ']' ∉ host) :
    hostPort? fallback (host ++ ':' :: (toString port).toList) = none := by
  obtain ⟨inner, rfl⟩ := List.head?_eq_some_iff.1 hopen
  have hsplit : splitFirst? ']' (inner ++ ':' :: (toString port).toList) = none := by
    rw [splitFirst?_eq_none_iff, List.mem_append, List.mem_cons, not_or, not_or]
    refine ⟨fun h => hclosing (List.mem_cons_of_mem _ h), by decide, fun h => ?_⟩
    exact absurd (isDigit_of_mem_toString h) (by decide)
  rw [List.cons_append, hostPort?, bracketed?, hsplit]

/-! ## Reading back -/

/-- A host whose addresses are read back: with a colon it has no closing bracket, and without one it
does not begin with an opening bracket. -/
def Legible (host : String) : Prop :=
  if ':' ∈ host.toList then ']' ∉ host.toList else host.toList.head? ≠ some '['

instance (host : String) : Decidable (Legible host) :=
  inferInstanceAs (Decidable
    (if ':' ∈ host.toList then ']' ∉ host.toList else host.toList.head? ≠ some '['))

/-- **What an address is written as names this address again, or nothing**, whatever network and scheme
stand in for what is left out. It names it exactly if the host is legible. -/
theorem parse_display (h : parse text network tlsDefault = some a) (network' : Network)
    (tlsDefault' : Bool) :
    parse a.display network' tlsDefault' = if Legible a.host then some a else none := by
  obtain ⟨hhost, hslash, hport, hbracket⟩ := facts_of_parse h
  rw [parse_display_eq, written]
  have hread : (if a.host.toList = [] ∨ '/' ∈ a.host.toList then none
      else some (⟨String.ofList a.host.toList, a.port, a.scheme⟩ : ServerAddress)) = some a := by
    rw [if_neg (not_or.2 ⟨hhost, hslash⟩), String.ofList_toList]
  by_cases hcolon : ':' ∈ a.host.toList
  · have hlegible : Legible a.host ↔ ']' ∉ a.host.toList := by rw [Legible, if_pos hcolon]
    rw [if_pos hcolon]
    by_cases hclosing : ']' ∈ a.host.toList
    · rw [hostPort?_of_closing hclosing, if_neg (mt hlegible.1 (Classical.not_not.2 hclosing))]
    · rw [hostPort?_bracketed hclosing hport, if_pos (hlegible.2 hclosing)]
      exact hread
  · have hlegible : Legible a.host ↔ a.host.toList.head? ≠ some '[' := by
      rw [Legible, if_neg hcolon]
    rw [if_neg hcolon]
    by_cases hopen : a.host.toList.head? = some '['
    · rw [hostPort?_of_opening hopen (hbracket hopen), if_neg (mt hlegible.1 (Classical.not_not.2 hopen))]
    · rw [hostPort?_plain hopen hhost hport, if_pos (hlegible.2 hopen)]
      exact hread

/-- An address without a port, whose host has colons: the port of its own network is kept. -/
theorem parse_display_localhost :
    parse " [::1] " .testnet true = some ⟨"::1", 60002, .tls⟩ ∧
      parse (display ⟨"::1", 60002, .tls⟩) .mainnet false = some ⟨"::1", 60002, .tls⟩ := by
  have hread : parse " [::1] " .testnet true = some ⟨"::1", 60002, .tls⟩ := by decide
  exact ⟨hread, (parse_display hread .mainnet false).trans (if_pos (by decide))⟩

/-- **There are addresses whose texts name no address**: a scheme without its slashes is part of the
host, and a bracket too many is, too. -/
theorem display_names_nothing :
    (parse "ssl:[::1]:7" .testnet true = some ⟨"ssl:[::1]", 7, .tls⟩ ∧
      parse (display ⟨"ssl:[::1]", 7, .tls⟩) .mainnet false = none) ∧
    parse "[[h]:7" .testnet true = some ⟨"[h", 7, .tls⟩ ∧
      parse (display ⟨"[h", 7, .tls⟩) .mainnet false = none := by
  decide

end ServerAddress
end HeaderFollower

/-
# What a line says

`Told` says what a line is from the members of its object, whatever their order and the blanks
between them. The identity is looked at first: with one, the line is a response; without, the method
decides. `parse_any_layout` says that a line is read as what it is told to be, as long as all its names
and the values it is judged by can be held; otherwise the line is not JSON that can be read.
-/

import HeaderFollower.Protocol.Message
import HeaderFollower.Proofs.Json.Members
import HeaderFollower.Proofs.Json.RoundTrip

namespace HeaderFollower

open Json

/-! ## Fields -/

namespace Json

variable {α : Type} {j : Json} {o : Option Json}

/-- Absent, or null. -/
def Missing (o : Option Json) : Prop := o = none ∨ o = some .null

/-- The value is this integer of 64 bits with sign. -/
inductive Integer : Json → Int → Prop where
  | natural (n : UInt64) (small : n.toNat < 0x8000000000000000) : Integer (.number (.natural n)) n.toNat
  | negative (n : UInt64) : Integer (.number (.negative n)) (-(n.toNat : Int))

theorem nat?_eq_some {n : Nat} :
    j.nat? = some n ↔ ∃ m : UInt64, j = .number (.natural m) ∧ m.toNat = n := by
  constructor
  · intro h
    unfold nat? at h
    split at h
    · exact ⟨_, rfl, Option.some.inj h⟩
    · cases h
  · rintro ⟨m, rfl, rfl⟩
    rfl

theorem string?_eq_some {s : String} : j.string? = some s ↔ j = .string s := by
  constructor
  · intro h
    unfold string? at h
    split at h
    · rw [Option.some.inj h]
    · cases h
  · rintro rfl
    rfl

theorem int?_eq_some {i : Int} : j.int? = some i ↔ Integer j i := by
  constructor
  · intro h
    unfold int? at h
    split at h
    · split at h
      · next hsmall => exact Option.some.inj h ▸ .natural _ hsmall
      · cases h
    · exact Option.some.inj h ▸ .negative _
    · cases h
  · rintro (⟨n, small⟩ | n)
    · exact if_pos small
    · rfl

theorem getD_missing (h : Missing o) : o.getD .null = .null := by
  rcases h with rfl | rfl <;> rfl

theorem isNull_eq_false (h : j ≠ .null) : j.isNull = false := by
  cases j with
  | null => exact absurd rfl h
  | _ => rfl

theorem optional_missing {read : Json → Option α} (h : Missing o) : optional read o = some none := by
  rcases h with rfl | rfl <;> rfl

theorem optional_some {read : Json → Option α} (h : j ≠ .null) :
    optional read (some j) = (read j).map some := by
  unfold optional
  split
  · next heq => cases heq
  · next heq => exact absurd (Option.some.inj heq) h
  · next heq => rw [Option.some.inj heq]

/-- A field is missing, is what it should be, or is something else. -/
theorem optional_cases (read : Json → Option α) (o : Option Json) :
    (Missing o ∧ optional read o = some none) ∨
    (∃ j a, o = some j ∧ read j = some a ∧ optional read o = some (some a)) ∨
    ∃ j, o = some j ∧ j ≠ .null ∧ read j = none ∧ optional read o = none := by
  by_cases hmissing : Missing o
  · exact .inl ⟨hmissing, optional_missing hmissing⟩
  · obtain ⟨hnone, hnull⟩ := not_or.1 hmissing
    obtain ⟨j, rfl⟩ := Option.ne_none_iff_exists'.1 hnone
    have hj : j ≠ .null := fun heq => hnull (congrArg some heq)
    rw [optional_some hj]
    cases hread : read j with
    | some a => exact .inr (.inl ⟨j, a, rfl, hread, rfl⟩)
    | none => exact .inr (.inr ⟨j, rfl, hj, hread, rfl⟩)

end Json

/-! ## Errors of servers -/

variable {j : Json} {e : RpcError}

/-- An object with a code and a message of its own. -/
def OwnError (j : Json) (e : RpcError) : Prop :=
  ∃ members code, j = .object members ∧ members.lookup "code" = some code ∧
    Integer code e.code ∧ members.lookup "message" = some (.string e.message)

/-- The error that a value gives: its own, or itself as text. -/
inductive GivesError : Json → RpcError → Prop where
  | own {j : Json} {e : RpcError} (h : OwnError j e) : GivesError j e
  | text (s : String) : GivesError (.string s) ⟨0, s⟩
  | other {j : Json} (none_own : ∀ e, ¬ OwnError j e) (no_text : ∀ s, j ≠ .string s) :
      GivesError j ⟨0, j.write⟩

theorem ownError_iff : OwnError j e ↔
    (j.member? "code").bind Json.int? = some e.code ∧
      (j.member? "message").bind Json.string? = some e.message := by
  simp only [Option.bind_eq_some_iff, int?_eq_some, string?_eq_some]
  constructor
  · rintro ⟨members, code, rfl, hcode, hint, hmessage⟩
    exact ⟨⟨code, hcode, hint⟩, ⟨_, hmessage, rfl⟩⟩
  · rintro ⟨⟨code, hcode, hint⟩, ⟨message, hmessage, rfl⟩⟩
    cases j with
    | object members => exact ⟨members, code, rfl, hcode, hint, hmessage⟩
    | null => cases hcode
    | bool => cases hcode
    | number => cases hcode
    | string => cases hcode
    | array => cases hcode

theorem RpcError.ofJson_own (h : OwnError j e) : RpcError.ofJson j = e := by
  obtain ⟨hcode, hmessage⟩ := ownError_iff.1 h
  rw [ofJson, hcode, hmessage]

theorem RpcError.ofJson_other (h : ∀ e, ¬ OwnError j e) : RpcError.ofJson j = ⟨0, describe j⟩ := by
  unfold ofJson
  split
  · next code message hcode hmessage =>
    exact absurd (ownError_iff.2 ⟨hcode, hmessage⟩) (h ⟨code, message⟩)
  · rfl

theorem RpcError.ofJson_eq_iff : RpcError.ofJson j = e ↔ GivesError j e := by
  have htext (s : String) (e : RpcError) : ¬ OwnError (.string s) e := by
    rintro ⟨members, code, heq, -⟩
    cases heq
  have hdescribe (hno : ∀ s, j ≠ .string s) : describe j = j.write := by
    cases j with
    | string s => exact absurd rfl (hno s)
    | _ => rfl
  constructor
  · rintro rfl
    by_cases hown : ∃ e, OwnError j e
    · obtain ⟨e, he⟩ := hown
      exact ofJson_own he ▸ .own he
    · rw [not_exists] at hown
      rw [ofJson_other hown]
      by_cases hs : ∃ s, j = .string s
      · obtain ⟨s, rfl⟩ := hs
        exact .text s
      · rw [not_exists] at hs
        exact hdescribe hs ▸ .other hown hs
  · rintro (h | s | ⟨hown, hno⟩)
    · exact ofJson_own h
    · exact ofJson_other (htext s)
    · rw [ofJson_other hown, hdescribe hno]

/-! ## Parameters of pushes -/

/-- A tip, as an object or as an array. -/
inductive GivesTip : Json → TipNotice → Prop where
  | object {members : List (String × Json)} {height : UInt64} {hex : String}
      (height_eq : members.lookup "height" = some (.number (.natural height)))
      (hex_eq : members.lookup "hex" = some (.string hex)) :
      GivesTip (.object members) ⟨height.toNat, hex⟩
  | array (height : UInt64) (hex : String) :
      GivesTip (.array [.number (.natural height), .string hex]) ⟨height.toNat, hex⟩

/-- What the parameters of a push of a tip say. -/
inductive TipParams : Option Json → Except ParamsFault TipNotice → Prop where
  | given {first : Json} {rest : List Json} {notice : TipNotice} (h : GivesTip first notice) :
      TipParams (some (.array (first :: rest))) (.ok notice)
  | bad {first : Json} {rest : List Json} (h : ∀ notice, ¬ GivesTip first notice) :
      TipParams (some (.array (first :: rest))) (.error .badTip)
  | empty {params : Option Json} (h : ∀ first rest, params ≠ some (.array (first :: rest))) :
      TipParams params (.error .noTip)

/-- What the parameters of a push of a scripthash say. -/
inductive ScripthashParams : Option Json → Except ParamsFault ScripthashNotice → Prop where
  | status (scripthash status : String) (rest : List Json) :
      ScripthashParams (some (.array (.string scripthash :: .string status :: rest)))
        (.ok ⟨scripthash, some status⟩)
  | bare (scripthash : String) {rest : List Json} (h : ∀ status more, rest ≠ .string status :: more) :
      ScripthashParams (some (.array (.string scripthash :: rest))) (.ok ⟨scripthash, none⟩)
  | nameless {items : List Json} (h : ∀ scripthash rest, items ≠ .string scripthash :: rest) :
      ScripthashParams (some (.array items)) (.error .noScripthash)
  | unlisted {params : Option Json} (h : ∀ items, params ≠ some (.array items)) :
      ScripthashParams params (.error .noList)

theorem required_eq_some {α : Type} {read : Json → Option α} {o : Option Json} {a : α} :
    required read o = some a ↔ ∃ j, o = some j ∧ read j = some a := by
  cases o <;> simp [required]

theorem TipNotice.ofFields?_eq_some {height hex : Option Json} {t : TipNotice} :
    ofFields? [height, hex] = some t ↔
      ∃ n : UInt64, height = some (.number (.natural n)) ∧ n.toNat = t.height ∧
        hex = some (.string t.hex) := by
  have hread : ofFields? [height, hex] = (required nat? height).bind fun n =>
      (required string? hex).map fun s => ⟨n, s⟩ := by
    rw [ofFields?]
    cases required nat? height with
    | none => rfl
    | some n => cases required string? hex <;> rfl
  rw [hread]
  simp only [Option.bind_eq_some_iff, Option.map_eq_some_iff, required_eq_some, nat?_eq_some,
    string?_eq_some]
  constructor
  · rintro ⟨_, ⟨_, rfl, n, rfl, rfl⟩, _, ⟨_, rfl, rfl⟩, rfl⟩
    exact ⟨n, rfl, rfl, rfl⟩
  · rintro ⟨n, rfl, hn, rfl⟩
    exact ⟨_, ⟨_, rfl, n, rfl, hn⟩, _, ⟨_, rfl, rfl⟩, rfl⟩

theorem TipNotice.ofJson?_eq_some {t : TipNotice} : ofJson? j = some t ↔ GivesTip j t := by
  constructor
  · intro h
    obtain ⟨fields, hfields, hread⟩ := Option.bind_eq_some_iff.1 h
    cases j with
    | object members =>
      obtain rfl := Option.some.inj hfields
      obtain ⟨n, hheight, hn, hhex⟩ := ofFields?_eq_some.1 hread
      obtain ⟨height, hex⟩ := t
      obtain rfl := hn
      exact .object hheight hhex
    | array items =>
      match items, hfields with
      | [], hfields =>
        obtain rfl := Option.some.inj hfields
        obtain ⟨n, hheight, -⟩ := ofFields?_eq_some.1 hread
        cases hheight
      | [first], hfields =>
        obtain rfl := Option.some.inj hfields
        obtain ⟨n, -, -, hhex⟩ := ofFields?_eq_some.1 hread
        cases hhex
      | [first, second], hfields =>
        obtain rfl := Option.some.inj hfields
        obtain ⟨n, hheight, hn, hhex⟩ := ofFields?_eq_some.1 hread
        obtain rfl := Option.some.inj hheight
        obtain rfl := Option.some.inj hhex
        obtain ⟨height, hex⟩ := t
        obtain rfl := hn
        exact .array n hex
      | _ :: _ :: _ :: _, hfields => cases hfields
    | null => cases hfields
    | bool => cases hfields
    | number => cases hfields
    | string => cases hfields
  · rintro (⟨hheight, hhex⟩ | ⟨height, hex⟩)
    · exact ofFields?_eq_some.2 ⟨_, hheight, rfl, hhex⟩
    · have hfields : (Json.array [.number (.natural height), .string hex]).fields? names =
          some [some (.number (.natural height)), some (.string hex)] := rfl
      rw [ofJson?, hfields]
      exact ofFields?_eq_some.2 ⟨height, rfl, rfl, rfl⟩

namespace Incoming

variable {params : Option Json}

/-- Parameters that are a list are there. -/
theorem eq_some_of_getD {items : List Json} (h : params.getD .null = .array items) :
    params = some (.array items) := by
  cases params with
  | none => cases h
  | some params => exact congrArg some h

theorem tipOfParams_empty (h : ∀ first rest, params ≠ some (.array (first :: rest))) :
    tipOfParams (params.getD .null) = .error .noTip := by
  unfold tipOfParams
  split
  · next heq => exact absurd (eq_some_of_getD heq) (h _ _)
  · rfl

theorem tipOfParams_eq_iff {r : Except ParamsFault TipNotice} :
    tipOfParams (params.getD .null) = r ↔ TipParams params r := by
  constructor
  · rintro rfl
    by_cases hlist : ∃ first rest, params = some (.array (first :: rest))
    · obtain ⟨first, rest, rfl⟩ := hlist
      rw [Option.getD_some, tipOfParams]
      cases htip : TipNotice.ofJson? first with
      | some t => exact .given (TipNotice.ofJson?_eq_some.1 htip)
      | none =>
        refine .bad fun t ht => ?_
        rw [TipNotice.ofJson?_eq_some.2 ht] at htip
        cases htip
    · have hempty : ∀ first rest, params ≠ some (.array (first :: rest)) :=
        fun first rest heq => hlist ⟨first, rest, heq⟩
      exact tipOfParams_empty hempty ▸ .empty hempty
  · intro h
    cases h with
    | given htip => rw [Option.getD_some, tipOfParams, TipNotice.ofJson?_eq_some.2 htip]
    | @bad first rest hbad =>
      have hnone : TipNotice.ofJson? first = none :=
        Option.eq_none_iff_forall_ne_some.2 fun t ht => hbad t (TipNotice.ofJson?_eq_some.1 ht)
      rw [Option.getD_some, tipOfParams, hnone]
    | empty hempty => exact tipOfParams_empty hempty

theorem scripthashOfParams_unlisted (h : ∀ items, params ≠ some (.array items)) :
    scripthashOfParams (params.getD .null) = .error .noList := by
  unfold scripthashOfParams
  split
  · next heq => exact absurd (eq_some_of_getD heq) (h _)
  · next heq => exact absurd (eq_some_of_getD heq) (h _)
  · rfl

theorem scripthashOfParams_nameless {items : List Json}
    (h : ∀ scripthash rest, items ≠ .string scripthash :: rest) :
    scripthashOfParams (.array items) = .error .noScripthash := by
  unfold scripthashOfParams
  split
  · next heq => exact absurd (Json.array.inj heq) (h _ _)
  · rfl
  · next hlist => exact absurd rfl (hlist items)

theorem scripthashOfParams_bare {scripthash : String} {rest : List Json}
    (h : ∀ status more, rest ≠ .string status :: more) :
    scripthashOfParams (.array (.string scripthash :: rest)) = .ok ⟨scripthash, none⟩ := by
  have hstatus : rest.head?.bind Json.string? = none := by
    refine Option.eq_none_iff_forall_ne_some.2 fun status heq => ?_
    obtain ⟨j, hhead, hj⟩ := Option.bind_eq_some_iff.1 heq
    obtain ⟨more, rfl⟩ := List.head?_eq_some_iff.1 hhead
    exact h status more (string?_eq_some.1 hj ▸ rfl)
  rw [scripthashOfParams, hstatus]

theorem scripthashOfParams_eq_iff {r : Except ParamsFault ScripthashNotice} :
    scripthashOfParams (params.getD .null) = r ↔ ScripthashParams params r := by
  constructor
  · rintro rfl
    by_cases hlist : ∃ items, params = some (.array items)
    · obtain ⟨items, rfl⟩ := hlist
      rw [Option.getD_some]
      by_cases hnamed : ∃ scripthash rest, items = .string scripthash :: rest
      · obtain ⟨scripthash, rest, rfl⟩ := hnamed
        by_cases hstatus : ∃ status more, rest = .string status :: more
        · obtain ⟨status, more, rfl⟩ := hstatus
          exact .status scripthash status more
        · have hbare : ∀ status more, rest ≠ .string status :: more :=
            fun status more heq => hstatus ⟨status, more, heq⟩
          exact scripthashOfParams_bare hbare ▸ .bare scripthash hbare
      · have hnameless : ∀ scripthash rest, items ≠ .string scripthash :: rest :=
          fun scripthash rest heq => hnamed ⟨scripthash, rest, heq⟩
        exact scripthashOfParams_nameless hnameless ▸ .nameless hnameless
    · have hunlisted : ∀ items, params ≠ some (.array items) :=
        fun items heq => hlist ⟨items, heq⟩
      exact scripthashOfParams_unlisted hunlisted ▸ .unlisted hunlisted
  · intro h
    cases h with
    | status => rfl
    | bare _ hbare => exact scripthashOfParams_bare hbare
    | nameless hnameless => exact scripthashOfParams_nameless hnameless
    | unlisted hunlisted => exact scripthashOfParams_unlisted hunlisted

/-! ## Lines -/

/-- What a line is by the members of its object. -/
inductive Told (field? : String → Option Json) : Except MessageError Incoming → Prop where
  | badId {j : Json} (id : field? "id" = some j) (not_null : j ≠ .null)
      (not_natural : ∀ n, j ≠ .number (.natural n)) : Told field? (.error .json)
  | badMethod {j : Json} (method : field? "method" = some j) (not_null : j ≠ .null)
      (not_string : ∀ s, j ≠ .string s) : Told field? (.error .json)
  | result {n : UInt64} (id : field? "id" = some (.number (.natural n)))
      (method : Missing (field? "method") ∨ ∃ s, field? "method" = some (.string s))
      (no_error : Missing (field? "error")) :
      Told field? (.ok (.response n.toNat (.ok ((field? "result").getD .null))))
  | error {n : UInt64} {j : Json} {e : RpcError} (id : field? "id" = some (.number (.natural n)))
      (method : Missing (field? "method") ∨ ∃ s, field? "method" = some (.string s))
      (error : field? "error" = some j) (not_null : j ≠ .null) (gives : GivesError j e) :
      Told field? (.ok (.response n.toNat (.error e)))
  | tip {notice : TipNotice} (no_id : Missing (field? "id"))
      (method : field? "method" = some (.string "blockchain.headers.subscribe"))
      (params : TipParams (field? "params") (.ok notice)) :
      Told field? (.ok (.push (.tip notice)))
  | badTip {fault : ParamsFault} (no_id : Missing (field? "id"))
      (method : field? "method" = some (.string "blockchain.headers.subscribe"))
      (params : TipParams (field? "params") (.error fault)) :
      Told field? (.error (.badParams "blockchain.headers.subscribe" fault))
  | scripthash {notice : ScripthashNotice} (no_id : Missing (field? "id"))
      (method : field? "method" = some (.string "blockchain.scripthash.subscribe"))
      (params : ScripthashParams (field? "params") (.ok notice)) :
      Told field? (.ok (.push (.scripthash notice)))
  | badScripthash {fault : ParamsFault} (no_id : Missing (field? "id"))
      (method : field? "method" = some (.string "blockchain.scripthash.subscribe"))
      (params : ScripthashParams (field? "params") (.error fault)) :
      Told field? (.error (.badParams "blockchain.scripthash.subscribe" fault))
  | unknown {method : String} (no_id : Missing (field? "id"))
      (method_eq : field? "method" = some (.string method))
      (no_tip : method ≠ "blockchain.headers.subscribe")
      (no_scripthash : method ≠ "blockchain.scripthash.subscribe") :
      Told field? (.ok (.unknownMethod method))
  | unclassifiable (no_id : Missing (field? "id")) (no_method : Missing (field? "method")) :
      Told field? (.error .unclassifiable)

variable {field? : String → Option Json} {r : Except MessageError Incoming}

theorem ofPush_unknown {method : String} (no_tip : method ≠ Method.headersSubscribe)
    (no_scripthash : method ≠ Method.scripthashSubscribe) (params : Json) :
    ofPush method params = .ok (.unknownMethod method) := by
  rw [ofPush, if_neg no_tip, if_neg no_scripthash]

theorem ofFields_names (field? : String → Option Json) : ofFields (names.map field?) =
    match optional nat? (field? "id"), optional string? (field? "method") with
    | some (some id), some _ =>
      .ok (ofResponse id ((field? "result").getD .null) ((field? "error").getD .null))
    | some none, some (some method) => ofPush method ((field? "params").getD .null)
    | some none, some none => .error .unclassifiable
    | _, _ => .error .json := rfl

/-- A response is told by its error. -/
theorem told_ofResponse {n : UInt64} (id : field? "id" = some (.number (.natural n)))
    (method : Missing (field? "method") ∨ ∃ s, field? "method" = some (.string s)) :
    Told field? (.ok (ofResponse n.toNat ((field? "result").getD .null)
      ((field? "error").getD .null))) := by
  by_cases hmissing : Missing (field? "error")
  · rw [ofResponse, getD_missing hmissing]
    exact .result id method hmissing
  · obtain ⟨hnone, hnull⟩ := not_or.1 hmissing
    obtain ⟨j, herror⟩ := Option.ne_none_iff_exists'.1 hnone
    have hj : j ≠ .null := fun heq => hnull (heq ▸ herror)
    rw [ofResponse, herror, Option.getD_some, isNull_eq_false hj]
    exact .error id method herror hj (RpcError.ofJson_eq_iff.1 rfl)

/-- A push is told by its method. -/
theorem told_ofPush {method : String} (no_id : Missing (field? "id"))
    (hmethod : field? "method" = some (.string method)) :
    Told field? (ofPush method ((field? "params").getD .null)) := by
  by_cases htip : method = Method.headersSubscribe
  · subst htip
    rw [ofPush, if_pos rfl]
    cases hparams : tipOfParams ((field? "params").getD .null) with
    | ok notice => exact .tip no_id hmethod (tipOfParams_eq_iff.1 hparams)
    | error fault => exact .badTip no_id hmethod (tipOfParams_eq_iff.1 hparams)
  · by_cases hscripthash : method = Method.scripthashSubscribe
    · subst hscripthash
      rw [ofPush, if_neg htip, if_pos rfl]
      cases hparams : scripthashOfParams ((field? "params").getD .null) with
      | ok notice => exact .scripthash no_id hmethod (scripthashOfParams_eq_iff.1 hparams)
      | error fault => exact .badScripthash no_id hmethod (scripthashOfParams_eq_iff.1 hparams)
    · rw [ofPush_unknown htip hscripthash]
      exact .unknown no_id hmethod htip hscripthash

/-- Whatever the members are, the line is something. -/
theorem told_ofFields (field? : String → Option Json) :
    Told field? (ofFields (names.map field?)) := by
  rw [ofFields_names]
  rcases optional_cases nat? (field? "id") with
    ⟨hid, hread⟩ | ⟨j, n, hid, hn, hread⟩ | ⟨j, hid, hnull, hn, hread⟩
  · rw [hread]
    rcases optional_cases string? (field? "method") with
      ⟨hmethod, hread⟩ | ⟨j, method, hmethod, hs, hread⟩ | ⟨j, hmethod, hnull, hs, hread⟩
    · rw [hread]
      exact .unclassifiable hid hmethod
    · rw [hread]
      exact told_ofPush hid (string?_eq_some.1 hs ▸ hmethod)
    · rw [hread]
      exact .badMethod hmethod hnull fun s heq => nomatch hs.symm.trans (string?_eq_some.2 heq)
  · obtain ⟨m, rfl, rfl⟩ := nat?_eq_some.1 hn
    rw [hread]
    rcases optional_cases string? (field? "method") with
      ⟨hmethod, hread⟩ | ⟨j, method, hmethod, hs, hread⟩ | ⟨j, hmethod, hnull, hs, hread⟩
    · rw [hread]
      exact told_ofResponse hid (.inl hmethod)
    · rw [hread]
      exact told_ofResponse hid (.inr ⟨method, string?_eq_some.1 hs ▸ hmethod⟩)
    · rw [hread]
      exact .badMethod hmethod hnull fun s heq => nomatch hs.symm.trans (string?_eq_some.2 heq)
  · rw [hread]
    exact .badId hid hnull fun m heq => nomatch hn.symm.trans (nat?_eq_some.2 ⟨m, heq, rfl⟩)

theorem optional_method {o : Option Json} (h : Missing o ∨ ∃ s, o = some (.string s)) :
    ∃ method, optional string? o = some method := by
  rcases h with h | ⟨s, rfl⟩
  · exact ⟨none, optional_missing h⟩
  · exact ⟨some s, rfl⟩

/-- What the members tell is what is made of them. -/
theorem ofFields_of_told (h : Told field? r) : ofFields (names.map field?) = r := by
  rw [ofFields_names]
  cases h with
  | @badId j id not_null not_natural =>
    have hn : j.nat? = none := Option.eq_none_iff_forall_ne_some.2 fun n heq => by
      obtain ⟨m, rfl, -⟩ := nat?_eq_some.1 heq
      exact not_natural m rfl
    rw [id, optional_some not_null, hn]
    rfl
  | @badMethod j method not_null not_string =>
    have hs : j.string? = none := Option.eq_none_iff_forall_ne_some.2 fun s heq =>
      not_string s (string?_eq_some.1 heq)
    rw [method, optional_some not_null, hs]
    cases optional nat? (field? "id") with
    | none => rfl
    | some id => cases id <;> rfl
  | result id method no_error =>
    obtain ⟨m, hmethod⟩ := optional_method method
    rw [id, hmethod, getD_missing no_error]
    rfl
  | error id method error not_null gives =>
    obtain ⟨m, hmethod⟩ := optional_method method
    rw [id, hmethod, error, Option.getD_some]
    change Except.ok (ofResponse _ _ _) = _
    rw [ofResponse, isNull_eq_false not_null, RpcError.ofJson_eq_iff.2 gives]
    rfl
  | tip no_id method params =>
    rw [optional_missing no_id, method]
    change ofPush Method.headersSubscribe _ = _
    rw [ofPush, if_pos rfl, tipOfParams_eq_iff.2 params]
  | badTip no_id method params =>
    rw [optional_missing no_id, method]
    change ofPush Method.headersSubscribe _ = _
    rw [ofPush, if_pos rfl, tipOfParams_eq_iff.2 params]
    rfl
  | scripthash no_id method params =>
    rw [optional_missing no_id, method]
    change ofPush Method.scripthashSubscribe _ = _
    rw [ofPush, if_neg (by decide), if_pos rfl, scripthashOfParams_eq_iff.2 params]
  | badScripthash no_id method params =>
    rw [optional_missing no_id, method]
    change ofPush Method.scripthashSubscribe _ = _
    rw [ofPush, if_neg (by decide), if_pos rfl, scripthashOfParams_eq_iff.2 params]
    rfl
  | unknown no_id method_eq no_tip no_scripthash =>
    rw [optional_missing no_id, method_eq]
    exact ofPush_unknown no_tip no_scripthash _
  | unclassifiable no_id no_method =>
    rw [optional_missing no_id, optional_missing no_method]

/-- The members tell one thing. -/
theorem ofFields_eq_iff : ofFields (names.map field?) = r ↔ Told field? r :=
  ⟨fun h => h ▸ told_ofFields field?, ofFields_of_told⟩

variable {o : ObjectText}

theorem parse_illegible (h : ¬ o.Legible names) : parse o.text = .error .json := by
  rw [parse, ObjectText.readRecord_eq_none h]

theorem parse_legible (h : o.Legible names) (honce : o.Once names) :
    parse o.text = ofFields (names.map o.field?) := by
  rw [parse, ObjectText.readRecord_eq_fields h honce]

/-- Two layouts of the same members are one line. -/
theorem parse_eq_parse {o' : ObjectText} (h : o.Legible names) (h' : o'.Legible names)
    (honce : o.Once names) (honce' : o'.Once names)
    (hsame : ∀ name ∈ names, o.field? name = o'.field? name) : parse o.text = parse o'.text := by
  rw [parse_legible h honce, parse_legible h' honce', List.map_congr_left hsame]

/-! ## Texts that cannot be held -/

/-- `1e400`, which no number is near. -/
def huge : NumberText where
  negative := false
  whole := digitsOf 1
  unpadded := digitsOf_unpadded 1
  fraction := none
  exponent := some ⟨0x65, .inl rfl, [], .inl rfl, digitsOf 400⟩

theorem huge_value? : huge.numeral.value? = none := by decide +kernel

def blank : Blanks := ⟨[0x20], List.forall_mem_singleton.2 rfl⟩

/-- An array in an array, and so on. -/
def nested : Nat → Part
  | 0 => bare (0x5b :: ([] ++ (commas [] ++ [0x5d]))) (arrayValue? [])
  | n + 1 => bare (0x5b :: ([] ++ (commas [(nested n).text] ++ [0x5d]))) (arrayValue? [nested n])

theorem spells_nested (n : Nat) : Spells (nested n).core (nested n).value? := by
  induction n with
  | zero => exact .array .none (List.forall_mem_nil _)
  | succ n ih => exact .array .none (List.forall_mem_singleton.2 ih)

theorem nested_value? {n depth : Nat} (h : depth ≤ n) : (nested n).value? depth = none := by
  induction n generalizing depth with
  | zero =>
    obtain rfl := Nat.le_zero.1 h
    rfl
  | succ n ih =>
    cases depth with
    | zero => rfl
    | succ depth =>
      change (List.mapM (fun p : Part => p.value? depth) [nested n]).map _ = none
      rw [List.mapM_cons, ih (Nat.le_of_succ_le_succ h)]
      rfl

theorem nested_text (n : Nat) : (nested n).text =
    List.replicate (n + 1) 0x5b ++ List.replicate (n + 1) 0x5d := by
  induction n with
  | zero => rfl
  | succ n ih =>
    rw [nested, bare_text, ih, commas, List.flatMap_nil, List.append_nil, List.nil_append,
      List.replicate_succ (n := n + 1), List.replicate_succ' (n := n + 1), List.append_assoc]
    rfl

/-- The text is an object whose members, each there once, tell of an unknown method, but it is not
read. -/
def Refused (text : List UInt8) : Prop :=
  ∃ o : ObjectText, o.text = text ∧ o.Once names ∧ Told o.field? (.ok (.unknownMethod "m")) ∧
    parse o.text = .error .json

/-- An object with a method and a member that cannot be held is refused. -/
theorem refused_of_member {m : MemberText} (hspells : Spells m.value.core m.value.value?)
    (hkey : m.key? = none ∨ m.key? = some "params" ∧ m.value.value? (maxDepth - 1) = none) :
    Refused (Text.utf8 "\x7b\"method\":\"m\"," ++ (m.text ++ [0x7d])) := by
  obtain ⟨pieces, hquoted, hpieces⟩ := exists_quoted "m"
  obtain ⟨method, htext, hmethod, hvalue⟩ := exists_memberText .none .none "method"
    (bare (Piece.quoted pieces) fun _ => (Piece.value? pieces).map .string)
  have hspelled : ∀ part ∈ [method, m], Spells part.value.core part.value.value? :=
    List.forall_mem_cons.2 ⟨hvalue ▸ .string pieces, List.forall_mem_singleton.2 hspells⟩
  let o : ObjectText := ⟨.none, .none, [method, m], .none, hspelled⟩
  have hname : o.field? "method" = some (.string "m") := by
    rw [ObjectText.field?, memberNamed?_cons hmethod, if_pos rfl, hvalue, bare, hpieces]
    rfl
  have hid : o.field? "id" = none := by
    rw [ObjectText.field?, memberNamed?_cons hmethod, if_neg (by decide), memberNamed?,
      List.find?_cons]
    rcases hkey with hkey | ⟨hkey, -⟩
    · rw [hkey]
      rfl
    · rw [hkey]
      rfl
  have hillegible : ¬ o.Legible names := by
    intro h
    obtain ⟨key, hsome, hheld⟩ := h m (List.mem_cons_of_mem _ List.mem_cons_self)
    rcases hkey with hkey | ⟨hkey, hvalue⟩
    · cases hkey.symm.trans hsome
    · obtain rfl := Option.some.inj (hkey.symm.trans hsome)
      obtain ⟨j, hj⟩ := hheld (by decide)
      cases hvalue.symm.trans hj
  refine ⟨o, ?_, ?_, .unknown (.inl hid) hname (by decide) (by decide), parse_illegible hillegible⟩
  · rw [ObjectText.text, List.map_cons, List.map_singleton, htext, bare_text, hquoted]
    have hfront : Text.utf8 "\x7b\"method\":\"m\"," = 0x7b :: (spellText "method" ++
      0x3a :: (spellText "m" ++ [0x2c])) := by decide
    rw [hfront]
    simp [o, commas, Blanks.none]
  · have hkeys : o.members.filterMap MemberText.key? = ["method"] ∨
        o.members.filterMap MemberText.key? = ["method", "params"] := by
      rcases hkey with hkey | ⟨hkey, -⟩
      · exact .inl (by simp [o, hmethod, hkey])
      · exact .inr (by simp [o, hmethod, hkey])
    rw [ObjectText.Once]
    rcases hkeys with hkeys | hkeys
    · rw [hkeys]
      decide
    · rw [hkeys]
      decide

/-! ## Any layout -/

/-- **What a line is does not depend on its layout.** -/
theorem parse_any_layout (o : ObjectText) (honce : o.Once names) (r : Except MessageError Incoming) :
    (o.Legible names → (parse o.text = r ↔ Told o.field? r)) ∧
      (¬ o.Legible names → parse o.text = .error .json) :=
  ⟨fun h => by rw [parse_legible h honce, ofFields_eq_iff], parse_illegible⟩

theorem parse_any_layout_shuffled : ∃ o : ObjectText,
    o.Once names ∧ o.Legible names ∧
    o.text = Text.utf8 (" \x7b \"params\" :[[9,\"00\"]], \"x\" : 1e400 , " ++
      "\"method\" : \"blockchain.headers.subscribe\" \x7d ") ∧
    parse o.text = .ok (.push (.tip ⟨9, "00"⟩)) := by
  let tip : Json := .array [.array [.nat 9, .string "00"]]
  have htip : Lossless (maxDepth - 1) tip :=
    .array (List.forall_mem_singleton.2 (.array (List.forall_mem_cons.2
      ⟨.number (.natural 9), List.forall_mem_singleton.2 (.string "00")⟩)))
  obtain ⟨params, hparams, hparamsSpells, hparamsValue⟩ := exists_part htip
  obtain ⟨pieces, hquoted, hpieces⟩ := exists_quoted Method.headersSubscribe
  obtain ⟨m₁, htext₁, hkey₁, rfl⟩ := exists_memberText blank blank "params" params
  obtain ⟨m₂, htext₂, hkey₂, hvalue₂⟩ := exists_memberText blank blank "x"
    ⟨blank, huge.text, blank, fun _ => huge.numeral.value?.map .number⟩
  obtain ⟨m₃, htext₃, hkey₃, hvalue₃⟩ := exists_memberText blank blank "method"
    ⟨blank, Piece.quoted pieces, blank, fun _ => (Piece.value? pieces).map .string⟩
  have hmethod : m₃.value.value? (maxDepth - 1) = some (.string Method.headersSubscribe) := by
    rw [hvalue₃, hpieces]
    rfl
  have hspelled : ∀ m ∈ [m₁, m₂, m₃], Spells m.value.core m.value.value? := by
    simp only [List.forall_mem_cons, List.not_mem_nil, false_imp_iff, implies_true, and_true]
    exact ⟨hparamsSpells, hvalue₂ ▸ .number huge, hvalue₃ ▸ .string pieces⟩
  let o : ObjectText := ⟨blank, .none, [m₁, m₂, m₃], blank, hspelled⟩
  have honce : o.Once names := by
    have hkeys : o.members.filterMap MemberText.key? = ["params", "x", "method"] := by
      simp [o, hkey₁, hkey₂, hkey₃]
    rw [ObjectText.Once, hkeys]
    decide
  have hlegible : o.Legible names := by
    simp only [ObjectText.Legible, o, List.forall_mem_cons, List.not_mem_nil, false_imp_iff,
      implies_true, and_true]
    exact ⟨⟨_, hkey₁, fun _ => ⟨_, hparamsValue⟩⟩, ⟨_, hkey₂, fun h => absurd h (by decide)⟩,
      ⟨_, hkey₃, fun _ => ⟨_, hmethod⟩⟩⟩
  have hfield (name : String) : o.field? name =
      if name = "params" then some tip else if name = "x" then none
      else if name = "method" then some (.string Method.headersSubscribe) else none := by
    rw [ObjectText.field?, memberNamed?_cons hkey₁, memberNamed?_cons hkey₂, memberNamed?_cons hkey₃,
      hparamsValue, hvalue₂, hmethod, huge_value?]
    rfl
  have htold : Told o.field? (.ok (.push (.tip ⟨9, "00"⟩))) := by
    refine .tip (.inl (hfield _)) (hfield _) ?_
    rw [hfield]
    exact .given (.array 9 "00")
  refine ⟨o, honce, hlegible, ?_, ((parse_any_layout o honce _).1 hlegible).2 htold⟩
  rw [ObjectText.text, List.map_cons, List.map_cons, List.map_cons, htext₁, htext₂, htext₃, hparams,
    Part.text, Part.text, hquoted]
  dsimp only [o]
  decide +kernel

theorem unheld_refused :
    Refused (Text.utf8 "\x7b\"method\":\"m\",\"\\ud800\":0\x7d") ∧
    Refused (Text.utf8 "\x7b\"method\":\"m\",\"params\":1e400\x7d") ∧
    Refused (Text.utf8 "\x7b\"method\":\"m\",\"params\":" ++
      (List.replicate 127 0x5b ++ List.replicate 127 0x5d ++ [0x7d])) := by
  refine ⟨?_, ?_, ?_⟩
  · have hhalf : codeUnit? 0x64 0x38 0x30 0x30 = some 0xd800 := by decide
    obtain ⟨zero, hzero, hspells, -⟩ := exists_part (Lossless.number (d := 0) (.natural 0))
    have h := refused_of_member (m := ⟨.none, [.unit 0x64 0x38 0x30 0x30 0xd800 hhalf], .none, zero⟩)
      hspells (.inl rfl)
    rw [MemberText.text, hzero] at h
    exact h
  · obtain ⟨m, htext, hkey, hvalue⟩ := exists_memberText .none .none "params"
      (bare huge.text fun _ => huge.numeral.value?.map .number)
    have h := refused_of_member (m := m) (hvalue ▸ .number huge)
      (.inr ⟨hkey, by rw [hvalue, bare, huge_value?]; rfl⟩)
    rw [htext] at h
    exact h
  · obtain ⟨m, htext, hkey, hvalue⟩ := exists_memberText .none .none "params" (nested 126)
    have h := refused_of_member (m := m) (hvalue ▸ spells_nested 126)
      (.inr ⟨hkey, by rw [hvalue]; exact nested_value? (Nat.le_refl 126)⟩)
    have hfront : Text.utf8 "\x7b\"method\":\"m\",\"params\":" =
        Text.utf8 "\x7b\"method\":\"m\"," ++ (spellText "params" ++ [0x3a]) := by decide
    rw [htext, nested_text] at h
    rw [hfront]
    simp only [Blanks.none, List.nil_append, List.append_assoc, List.cons_append] at h ⊢
    exact h

end Incoming

end HeaderFollower

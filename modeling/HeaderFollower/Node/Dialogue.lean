/-
# Dialogues with a server

A dialogue says what to ask, one request after the other, and how to go on with each answer. It is a
value: `Leads` says where it can lead, whatever a server answers, and `run` lets a given server
answer.
-/

import HeaderFollower.Node.Basic
import HeaderFollower.Protocol.Call

namespace HeaderFollower

/-- What comes of a request. -/
structure Answered where
  outcome : Except ClientError Json
  /-- The connection is still open. -/
  alive : Bool

/-- A dialogue that results in an `α`. -/
inductive Dialogue (α : Type) where
  | done (result : α)
  /-- Makes a connection. -/
  | dial (address : ServerAddress) (next : Except ConnectError Unit → Dialogue α)
  | ask (method : String) (params : Json) (next : Answered → Dialogue α)

/-- What was said in a dialogue. -/
inductive Exchange where
  | dialled (address : ServerAddress) (outcome : Except ConnectError Unit)
  | asked (method : String) (params : Json) (answer : Answered)

/-- A server that changes with what it is asked. -/
structure Remote (ω : Type) where
  dial : ω → ServerAddress → Except ConnectError Unit × ω
  ask : ω → String → Json → Answered × ω

namespace Dialogue

variable {α β ω : Type}

/-- A dialogue followed by another. -/
def bind : Dialogue α → (α → Dialogue β) → Dialogue β
  | done a, f => f a
  | dial address next, f => dial address fun r => (next r).bind f
  | ask method params next, f => ask method params fun r => (next r).bind f

instance : Monad Dialogue where
  pure := done
  bind := bind

/-- With these exchanges the dialogue results in `a`. -/
inductive Leads : Dialogue α → List Exchange → α → Prop where
  | done (a : α) : Leads (done a) [] a
  | dial {address : ServerAddress} {next : Except ConnectError Unit → Dialogue α}
      {r : Except ConnectError Unit} {said : List Exchange} {a : α} (h : Leads (next r) said a) :
      Leads (.dial address next) (.dialled address r :: said) a
  | ask {method : String} {params : Json} {next : Answered → Dialogue α} {r : Answered}
      {said : List Exchange} {a : α} (h : Leads (next r) said a) :
      Leads (.ask method params next) (.asked method params r :: said) a

/-- Lets a server answer. -/
def run (remote : Remote ω) : Dialogue α → ω → α × ω
  | done a, w => (a, w)
  | dial address next, w =>
    let (r, w) := remote.dial w address
    (next r).run remote w
  | ask method params next, w =>
    let (r, w) := remote.ask w method params
    (next r).run remote w

/-- A server can only lead where the dialogue leads. -/
theorem leads_run (remote : Remote ω) (d : Dialogue α) (w : ω) :
    ∃ said, d.Leads said (d.run remote w).1 := by
  induction d generalizing w with
  | done a => exact ⟨[], .done a⟩
  | dial address next ih =>
    obtain ⟨said, h⟩ := ih (remote.dial w address).1 (remote.dial w address).2
    exact ⟨_, .dial h⟩
  | ask method params next ih =>
    obtain ⟨said, h⟩ := ih (remote.ask w method params).1 (remote.ask w method params).2
    exact ⟨_, .ask h⟩

/-- A dialogue followed by another leads where the second leads from where the first led. -/
theorem leads_bind_iff {d : Dialogue α} {f : α → Dialogue β} {said : List Exchange} {b : β} :
    (d.bind f).Leads said b ↔
      ∃ a before behind, said = before ++ behind ∧ d.Leads before a ∧ (f a).Leads behind b := by
  induction d generalizing said with
  | done a =>
    constructor
    · exact fun h => ⟨a, [], said, rfl, .done a, h⟩
    · rintro ⟨_, _, _, rfl, ⟨⟩, h⟩
      exact h
  | dial address next ih =>
    constructor
    · rintro ⟨⟩
      rename_i r said h
      obtain ⟨a, before, behind, rfl, h₁, h₂⟩ := (ih r).1 h
      exact ⟨a, _, behind, rfl, .dial h₁, h₂⟩
    · rintro ⟨a, _, behind, rfl, ⟨⟩, h₂⟩
      rename_i r before h₁
      exact .dial ((ih r).2 ⟨a, before, behind, rfl, h₁, h₂⟩)
  | ask method params next ih =>
    constructor
    · rintro ⟨⟩
      rename_i r said h
      obtain ⟨a, before, behind, rfl, h₁, h₂⟩ := (ih r).1 h
      exact ⟨a, _, behind, rfl, .ask h₁, h₂⟩
    · rintro ⟨a, _, behind, rfl, ⟨⟩, h₂⟩
      rename_i r before h₁
      exact .ask ((ih r).2 ⟨a, before, behind, rfl, h₁, h₂⟩)

end Dialogue

/-- A server that nobody reaches. -/
def Remote.unreachable (text : String) : Remote Unit where
  dial := fun _ address => (.error (.io address.display text), ())
  ask := fun _ _ _ => (⟨.error .closed, false⟩, ())

/-- Asks for something on a connection; on one that has been torn down nothing is sent. -/
def Link.ask {α : Type} (c : Link) (call : ServerCall α) :
    Dialogue (Except ClientError α × Link) :=
  if c.alive then
    .ask call.method call.params fun r => .done (r.outcome.bind call.decode, ⟨r.alive⟩)
  else .done (.error .closed, c)

end HeaderFollower

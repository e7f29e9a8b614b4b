/-
# What is asked in a dialogue

`Dialogue.Leads` looks at a dialogue from its end. Seen from the middle, a dialogue asks for
something after certain exchanges (`Dialogue.Asks`), and whoever puts two dialogues together asks
what the first asks, and what the second asks once the first is done (`Dialogue.asks_bind_iff`).
-/

import HeaderFollower.Node.Request
import HeaderFollower.Node.Start

namespace HeaderFollower
namespace Dialogue

variable {α β : Type} {d : Dialogue α} {said before behind : List Exchange} {method : String}
  {params : Json} {r : Answered} {a : α}

/-- After these exchanges the dialogue asks for this. -/
inductive Asks : Dialogue α → List Exchange → String → Json → Prop where
  | now {method : String} {params : Json} {next : Answered → Dialogue α} :
      Asks (.ask method params next) [] method params
  | dial {address : ServerAddress} {next : Except ConnectError Unit → Dialogue α}
      {r : Except ConnectError Unit} {said : List Exchange} {method : String} {params : Json}
      (h : Asks (next r) said method params) :
      Asks (.dial address next) (.dialled address r :: said) method params
  | ask {asked : String} {about : Json} {next : Answered → Dialogue α} {r : Answered}
      {said : List Exchange} {method : String} {params : Json}
      (h : Asks (next r) said method params) :
      Asks (.ask asked about next) (.asked asked about r :: said) method params

theorem not_asks_done : ¬ (Dialogue.done a).Asks said method params := fun h => nomatch h

/-- All that is asked on the way to a result is asked. -/
theorem Leads.asks (h : d.Leads (before ++ .asked method params r :: behind) a) :
    d.Asks before method params := by
  induction before generalizing d with
  | nil =>
    cases h
    exact .now
  | cons first rest ih =>
    cases h with
    | dial h => exact .dial (ih h)
    | ask h => exact .ask (ih h)

/-- A dialogue followed by another asks what either of them asks. -/
theorem asks_bind_iff {f : α → Dialogue β} :
    (d.bind f).Asks said method params ↔
      d.Asks said method params ∨ ∃ a before behind, said = before ++ behind ∧ d.Leads before a ∧
        (f a).Asks behind method params := by
  induction d generalizing said with
  | done a =>
    constructor
    · exact fun h => .inr ⟨a, [], said, rfl, .done a, h⟩
    · rintro (h | ⟨_, _, _, rfl, ⟨⟩, h⟩)
      · exact absurd h not_asks_done
      · exact h
  | dial address next ih =>
    constructor
    · intro h
      cases h with
      | @dial _ _ r said _ _ h =>
        rcases (ih r).1 h with h | ⟨a, before, behind, rfl, h₁, h₂⟩
        · exact .inl (.dial h)
        · exact .inr ⟨a, _, behind, rfl, .dial h₁, h₂⟩
    · rintro (h | ⟨a, _, behind, rfl, ⟨⟩, h₂⟩)
      · cases h with
        | @dial _ _ r said _ _ h => exact .dial ((ih r).2 (.inl h))
      · next r before h₁ => exact .dial ((ih r).2 (.inr ⟨a, before, behind, rfl, h₁, h₂⟩))
  | ask asked about next ih =>
    constructor
    · intro h
      cases h with
      | now => exact .inl .now
      | @ask _ _ _ r said _ _ h =>
        rcases (ih r).1 h with h | ⟨a, before, behind, rfl, h₁, h₂⟩
        · exact .inl (.ask h)
        · exact .inr ⟨a, _, behind, rfl, .ask h₁, h₂⟩
    · rintro (h | ⟨a, _, behind, rfl, ⟨⟩, h₂⟩)
      · cases h with
        | now => exact .now
        | @ask _ _ _ r said _ _ h => exact .ask ((ih r).2 (.inl h))
      · next r before h₁ => exact .ask ((ih r).2 (.inr ⟨a, before, behind, rfl, h₁, h₂⟩))

end Dialogue

namespace Link

variable {α : Type} {call : ServerCall α} {c : Link} {said : List Exchange}

/-- A request leads to an answer, or on a connection that has been torn down to nothing. -/
theorem leads_ask_iff {p : Except ClientError α × Link} :
    (c.ask call).Leads said p ↔
      (c.alive = true ∧ ∃ r : Answered, said = [.asked call.method call.params r] ∧
        p = (r.outcome.bind call.decode, ⟨r.alive⟩)) ∨
      (c.alive = false ∧ said = [] ∧ p = (.error .closed, c)) := by
  rw [ask]
  cases hc : c.alive with
  | true =>
    simp only [if_true, true_and, Bool.true_eq_false, false_and, or_false]
    constructor
    · rintro (_ | _ | ⟨⟨⟩⟩)
      exact ⟨_, rfl, rfl⟩
    · rintro ⟨r, rfl, rfl⟩
      exact .ask (.done _)
  | false =>
    simp only [Bool.false_eq_true, if_false, false_and, false_or, true_and]
    constructor
    · rintro ⟨⟩
      exact ⟨rfl, rfl⟩
    · rintro ⟨rfl, rfl⟩
      exact .done _

theorem asks_ask_iff {method : String} {params : Json} :
    (c.ask call).Asks said method params ↔
      c.alive = true ∧ said = [] ∧ method = call.method ∧ params = call.params := by
  rw [ask]
  cases hc : c.alive with
  | true =>
    simp only [if_true, true_and]
    constructor
    · rintro (_ | _ | ⟨⟨⟩⟩)
      exact ⟨rfl, rfl, rfl⟩
    · rintro ⟨rfl, rfl, rfl⟩
      exact .now
  | false =>
    simp only [Bool.false_eq_true, if_false, false_and, iff_false]
    exact Dialogue.not_asks_done

end Link
end HeaderFollower

/-
# Honest servers

An honest server has one chain of linked headers and answers from it, whatever it has been asked
before. It may send less at once than was asked for, if it states how much it sends. `Serves` and
`ServesSingly` say so of a source of answers, and `honest` is such a source.

`Machine.Ends` says that a call comes to an end, and how.
-/

import HeaderFollower.Proofs.Header.Records
import HeaderFollower.Proofs.Store.Smooth
import HeaderFollower.Sync.TipUpdate

namespace HeaderFollower

open BlockHeader Store

/-! ## Calls that end -/

namespace Machine

variable {σ κ α ω : Type} {m : Machine σ κ α} {source : Source ω} {p : Progress κ α × σ}
  {Q Q' : Except SyncError α → σ → Prop}

/-- In whatever state the source is, the call comes to an end, with a result and a state of which
`Q` holds. -/
def Ends (m : Machine σ κ α) (source : Source ω) (p : Progress κ α × σ)
    (Q : Except SyncError α → σ → Prop) : Prop :=
  ∀ w, ∃ fuel r s v, m.run source fuel p w = (some r, s, v) ∧ Q r s

theorem ends_done {r : Except SyncError α} {s : σ} (h : Q r s) : m.Ends source (.done r, s) Q :=
  fun w => ⟨0, r, s, w, rfl, h⟩

/-- A call that waits goes on with the next answer of the source. -/
theorem run_waiting (m : Machine σ κ α) (source : Source ω) (fuel : Nat) (call : κ) (s : σ) (w : ω) :
    m.run source (fuel + 1) (.waiting call, s) w =
      m.run source fuel (m.resume call s (source w (m.query call)).1)
        (source w (m.query call)).2 := rfl

/-- A call that ends with the second answer. -/
theorem run_of_two (m : Machine σ κ α) (source : Source ω) {call call' : κ} {s t u : σ}
    {r : Except SyncError α} {w : ω}
    (hfirst : m.resume call s (source w (m.query call)).1 = (.waiting call', u))
    (hsecond : m.resume call' u (source (source w (m.query call)).2 (m.query call')).1 =
      (.done r, t)) :
    ∃ v, m.run source 2 (.waiting call, s) w = (some r, t, v) := by
  refine ⟨(source (source w (m.query call)).2 (m.query call')).2, ?_⟩
  rw [run_waiting, hfirst, run_waiting, hsecond]
  rfl

/-- A call ends if it ends after the answer it waits for. -/
theorem ends_waiting {call : κ} {s : σ}
    (h : ∀ w, m.Ends source (m.resume call s (source w (m.query call)).1) Q) :
    m.Ends source (.waiting call, s) Q := by
  intro w
  obtain ⟨fuel, r, t, v, hrun, hq⟩ := h w (source w (m.query call)).2
  exact ⟨fuel + 1, r, t, v, hrun, hq⟩

/-- However a call is driven to its end, it ends so. -/
theorem Ends.of_run (h : m.Ends source p Q) {fuel : Nat} {r : Except SyncError α} {s : σ} {w v : ω}
    (hrun : m.run source fuel p w = (some r, s, v)) : Q r s := by
  obtain ⟨more, r', t, x, hrun', hq⟩ := h w
  have hsame := (m.run_mono source (Nat.le_max_left fuel more) hrun).symm.trans
    (m.run_mono source (Nat.le_max_right fuel more) hrun')
  cases hsame
  exact hq

theorem Ends.imp (h : m.Ends source p Q) (hq : ∀ r s, Q r s → Q' r s) : m.Ends source p Q' := by
  intro w
  obtain ⟨fuel, r, s, v, hrun, h⟩ := h w
  exact ⟨fuel, r, s, v, hrun, hq r s h⟩

/-! ## How calls go on -/

variable {Φ : Progress κ α × σ → Prop}

/-- The call waits, and whatever the answer, `Φ` holds of how it goes on. -/
def Awaits (m : Machine σ κ α) (source : Source ω) (Φ : Progress κ α × σ → Prop)
    (p : Progress κ α × σ) : Prop :=
  ∃ call s, p = (.waiting call, s) ∧ ∀ w, Φ (m.resume call s (source w (m.query call)).1)

/-- If a property holds of how a call goes on, it holds of the call. -/
def Inherits (m : Machine σ κ α) (source : Source ω) (Φ : Progress κ α × σ → Prop) : Prop :=
  ∀ p, m.Awaits source Φ p → Φ p

theorem inherits_ends : m.Inherits source fun p => m.Ends source p Q := by
  rintro p ⟨call, s, rfl, h⟩
  exact ends_waiting h

theorem Inherits.of_waiting (h : m.Inherits source Φ) {call : κ} {s : σ}
    (hnext : ∀ w, Φ (m.resume call s (source w (m.query call)).1)) : Φ (.waiting call, s) :=
  h _ ⟨call, s, rfl, hnext⟩

/-! ## Calls that do not end -/

/-- After `n` answers the call still waits. -/
def Lasts (m : Machine σ κ α) (source : Source ω) (n : Nat) (p : Progress κ α × σ) : Prop :=
  ∀ w, (m.run source n p w).1 = none

theorem Awaits.lasts_zero (h : m.Awaits source Φ p) : m.Lasts source 0 p := by
  obtain ⟨call, s, rfl, -⟩ := h
  exact fun w => rfl

theorem Awaits.lasts_succ {n : Nat} (h : m.Awaits source (m.Lasts source n) p) :
    m.Lasts source (n + 1) p := by
  obtain ⟨call, s, rfl, h⟩ := h
  exact fun w => h w _

theorem Lasts.of_succ {n : Nat} (h : m.Lasts source (n + 1) p) : m.Lasts source n p := by
  intro w
  rcases hrun : m.run source n p w with ⟨r, s, v⟩
  cases r with
  | none => rfl
  | some r =>
    have hlater := h w
    rw [m.run_mono source n.le_succ hrun] at hlater
    cases hlater

theorem inherits_lasts (n : Nat) : m.Inherits source (m.Lasts source n) :=
  fun _ h => h.lasts_succ.of_succ

/-- **A call that comes from each state of `I` to a state of `I` again never ends.** -/
theorem lasts_of_recurs {I : Progress κ α × σ → Prop}
    (h : ∀ p, I p → ∀ Φ, m.Inherits source Φ → (∀ q, I q → Φ q) → m.Awaits source Φ p)
    (hp : I p) (n : Nat) : m.Lasts source n p := by
  induction n generalizing p with
  | zero => exact (h p hp (fun _ => True) (fun _ _ => trivial) fun _ _ => trivial).lasts_zero
  | succ n ih => exact (h p hp _ (inherits_lasts n) fun q hq => ih hq).lasts_succ

end Machine

/-! ## Batches -/

/-- A batch brings headers, as many as it says. -/
structure HeaderBatch.Carries (batch : HeaderBatch) (hs : List BlockHeader) : Prop where
  count_eq : batch.count = hs.length
  decode_eq : Hex.decode batch.hex = .ok (concat hs)

theorem HeaderBatch.Carries.raw_eq {batch : HeaderBatch} {hs : List BlockHeader}
    (h : batch.Carries hs) {size : Nat} (hsized : Sized size hs) (start requested : Nat) :
    batch.raw size start requested = .ok (concat hs) := by
  have hbytes := Hex.utf8ByteSize_of_decode h.decode_eq
  rw [hsized.length_concat, ← h.count_eq] at hbytes
  rw [HeaderBatch.raw, if_neg (not_not.2 hbytes), h.decode_eq]

/-! ## Servers -/

/-- How many headers come at once when `count` are asked for, as long as there are so many. -/
def atMost (cap : Option Nat) (count : Nat) : Nat :=
  match cap with
  | some most => min count most
  | none => count

/-- A cap that allows for all is none. -/
theorem atMost_eq {cap : Option Nat} {count : Nat} (h : ∀ most ∈ cap, count ≤ most) :
    atMost cap count = count := by
  cases cap with
  | none => rfl
  | some most => exact Nat.min_eq_left (h most rfl)

/-- The source serves the headers `S`, the first at height `start`. It sends at most `cap` of them
at once, and states that number, if there is a cap. -/
def Serves {ω : Type} (source : Machine.Source ω) (start : Nat) (S : List BlockHeader)
    (cap : Option Nat) : Prop :=
  ∀ w offset count, ∃ batch, (source w (.headers (start + offset) count)).1 = .ok batch ∧
    batch.Carries ((S.drop offset).take (atMost cap count)) ∧ ∀ most ∈ cap, batch.max = some most

/-- The source answers with the single header at a height, too. -/
def ServesSingly {ω : Type} (source : Machine.Source ω) (start size : Nat)
    (S : List BlockHeader) : Prop :=
  ∀ w (i : Nat) (h : i < S.length), ∃ text,
    (source w (.header (start + i))).1 = .ok text ∧ ofHex size text = .ok S[i]

/-- A server with the headers `S`. -/
def honest (start : Nat) (S : List BlockHeader) (cap : Option Nat) : Machine.Source Unit
  | (), .overLimit => (false, ())
  | (), .pause => ((), ())
  | (), .headers height count =>
    let hs := (S.drop (height - start)).take (atMost cap count)
    (.ok ⟨hs.length, Hex.encode (concat hs), cap⟩, ())
  | (), .header height =>
    match S[height - start]? with
    | some h => (.ok h.toHex, ())
    | none => (.error .closed, ())

theorem serves_honest (start : Nat) (S : List BlockHeader) (cap : Option Nat) :
    Serves (honest start S cap) start S cap := by
  intro w offset count
  refine ⟨_, rfl, ⟨?_, ?_⟩, ?_⟩
  · rw [Nat.add_sub_cancel_left]
  · rw [Nat.add_sub_cancel_left, Hex.decode_encode]
  · intro most hmost
    exact hmost

theorem servesSingly_honest (start : Nat) {size : Nat} {S : List BlockHeader} (hS : Sized size S)
    (cap : Option Nat) : ServesSingly (honest start S cap) start size S := by
  intro w i hi
  refine ⟨S[i].toHex, ?_, ?_⟩
  · rw [honest, Nat.add_sub_cancel_left, List.getElem?_eq_getElem hi]
  · rw [← hS _ (List.getElem_mem hi)]
    exact ofHex_toHex _

end HeaderFollower

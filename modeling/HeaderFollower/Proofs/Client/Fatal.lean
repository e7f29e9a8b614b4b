/-
# Errors that end a connection

After some errors a connection is of no further use, and whoever used it makes another one. Nearly
all of them come with the end of the connection. The one that does not is a request that takes too
long, and `Client.timeout_of_fatal` says that there is no other.
-/

import HeaderFollower.Proofs.Client.Correlated

namespace HeaderFollower
namespace Client

variable {s : Client} {a : ClientAction} {c id : Nat} {call : ClientCall} {e : ClientError}
  {r : Except ClientError Json} {settings : ClientSettings} {schedule : Nat → ClientAction} {n : Nat}

theorem TimeoutOrClosed.step (h : s.TimeoutOrClosed e) (a : ClientAction) :
    (s.step a).1.TimeoutOrClosed e :=
  fun hfatal => (h hfatal).imp_right (closing_step_ne s a)

/-- What a call is given is a reply, or the connection is closed. -/
theorem closing_of_told (told : s.delivery? a = some (id, r)) (hr : ¬ FromServer r) :
    s.closing ≠ .notYet := by
  cases a with
  | readLine =>
    rcases eq_of_told told hr with rfl | rfl
    all_goals
      obtain ⟨line, -, hreply⟩ := Option.bind_eq_some_iff.mp told
      simp only [reply?] at hreply
      repeat' split at hreply
      all_goals cases hreply
  | tearDown =>
    intro hopen
    simp only [delivery?, hopen] at told
    cases told
  | _ => cases told

theorem timeoutOrClosed_of_told (told : s.delivery? a = some (id, .error e)) :
    s.TimeoutOrClosed e := by
  intro hfatal
  by_cases hserver : FromServer (.error e)
  · cases e with
    | rpc code text => cases hfatal
    | _ => exact absurd hserver fun h => h
  · exact .inr (closing_of_told told hserver)

/-- What a call has been given or has returned. -/
def Ends (call : ClientCall) (r : Except ClientError Json) : Prop :=
  call.inbox = some r ∨ call.stage = .finished r

/-- An error that a turn gives to a call, or that it returns, was its own before or came with the
turn. -/
theorem CallTurn.timeoutOrClosed {t : Client} {next : ClientCall} (turn : CallTurn s a t c call next)
    (before : ∀ e, Ends call (.error e) → t.TimeoutOrClosed e)
    (told : ∀ id e, s.delivery? a = some (id, .error e) → t.TimeoutOrClosed e)
    (h : Ends next (.error e)) : t.TimeoutOrClosed e := by
  cases turn with
  | cancel pending nextId => exact before e h
  | number frame stage pending nextId => exact before e (h.imp_right fun h => by cases h)
  | register id frame stage pending nextId => exact before e (h.imp_right fun h => by cases h)
  | move next id slot onward unfinished unmarked stopped expired pending nextId =>
    refine before e (h.imp_right fun h => ?_)
    rw [show next = .finished (.error e) from h] at unfinished
    exact absurd unfinished (Nat.lt_irrefl 8)
  | refuse e' outside unfinished own pending nextId fatal =>
    rcases h with h | h
    · exact before e (.inl h)
    · cases h
      exact fatal
  | leave id e' slot cause pending nextId fatal =>
    rcases h with h | h
    · exact before e (.inl h)
    · cases h
      exact fatal
  | answer id r slot waits inbox pending nextId =>
    rcases h with h | h
    · exact before e (.inl h)
    · cases h
      exact before e (.inl inbox)
  | deliver id r told' entry pending nextId =>
    rcases h with h | h
    · cases h
      exact told id e told'
    · exact before e (.inr h)

/-- **An error after which a connection is of no use is a time-out, or the connection is closed.** -/
theorem timeoutOrClosed_states (hd : (states settings schedule n).calls[c]? = some call)
    (h : Ends call (.error e)) : (states settings schedule n).TimeoutOrClosed e := by
  induction n generalizing call e with
  | zero => simp [states, start] at hd
  | succ n ih =>
    rcases (turn_states settings schedule n).back hd with
      hsame | ⟨method, params, rfl⟩ | ⟨before, hbefore, turn⟩
    · exact (ih hsame h).step _
    · rcases h with h | h <;> cases h
    · refine turn.timeoutOrClosed (fun e h => (ih hbefore h).step _) (fun id e told => ?_) h
      exact (timeoutOrClosed_of_told told).step _

/-- A connection that is open after a fatal error has let a request take too long. -/
theorem timeout_of_fatal (h : (states settings schedule n).result? c = some (.error e))
    (hfatal : e.connectionFatal = true) (hopen : (states settings schedule n).isClosed = false) :
    ∃ method after, e = .timeout method after := by
  obtain ⟨call, hcall, hstage⟩ := result?_eq_some_iff.mp h
  rcases timeoutOrClosed_states hcall (.inr hstage) hfatal with htimeout | hclosed
  · exact htimeout
  · rw [isClosed, bne_eq_false_iff_eq] at hopen
    exact absurd hopen hclosed

end Client
end HeaderFollower

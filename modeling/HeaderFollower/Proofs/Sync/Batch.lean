/-
# Which headers of a batch connect

`linkedCount` counts the headers at the front of a batch that form a chain on top of the store.
`Store.Indexes.exists_of_linkedPrefix` says of any batch what it has counted, and
`Store.Indexes.linkedPrefix_concat` what it counts in a batch of headers.
-/

import HeaderFollower.Proofs.Header.Growth
import HeaderFollower.Proofs.Store.Indexed
import HeaderFollower.Sync.Batch

namespace HeaderFollower

open BlockHeader

/-- What has been counted are headers, each linked to the one before it, and the first as `links`
says. -/
theorem exists_of_linkedCount {links : BlockHeader → Bool}
    {records : List (Except HeaderError BlockHeader)} {n : Nat}
    (h : linkedCount links records = .ok n) :
    ∃ new : List BlockHeader, new.length = n ∧ records.take n = new.map .ok ∧ Linked new ∧
      ∀ first ∈ new.head?, links first := by
  induction records generalizing links n with
  | nil =>
    obtain rfl := Except.ok.inj h
    exact ⟨[], rfl, rfl, .nil, by simp⟩
  | cons r rest ih =>
    cases r with
    | error e => simp [linkedCount] at h
    | ok x =>
      rw [linkedCount] at h
      split at h
      · next hx =>
        split at h
        · simp at h
        · next m hm =>
          obtain rfl := Except.ok.inj h
          obtain ⟨new, rfl, htake, hlinked, hfirst⟩ := ih hm
          exact ⟨x :: new, rfl, by rw [List.take_succ_cons, htake]; rfl,
            linked_cons_iff.2 ⟨hfirst, hlinked⟩, by simpa using hx⟩
      · obtain rfl := Except.ok.inj h
        exact ⟨[], rfl, rfl, .nil, by simp⟩

/-- Headers are counted up to the first that does not continue the chain. -/
theorem linkedCount_eq {hs new rest : List BlockHeader} (h : Linked (hs ++ new))
    (hstop : ∀ above ∈ rest.head?, continues (hs ++ new) above = false) :
    linkedCount (continues hs) ((new ++ rest).map .ok) = .ok new.length := by
  induction new generalizing hs with
  | nil =>
    rw [List.append_nil] at hstop
    cases rest with
    | nil => rfl
    | cons above rest =>
      rw [List.nil_append, List.map_cons, linkedCount, if_neg (by rw [hstop above rfl]; decide)]
      rfl
  | cons x new ih =>
    rw [List.append_cons] at h hstop
    have hx : continues hs x = true := (linked_concat_iff.1 (linked_append_iff.1 h).1).2
    have hnext : (fun next : BlockHeader => next.linksTo x) = continues (hs ++ [x]) :=
      funext fun next => (continues_concat hs x next).symm
    rw [List.cons_append, List.map_cons, linkedCount, if_pos hx, hnext, ih h hstop,
      List.length_cons]

namespace Store.Indexes

variable {s : Store} {hs new : List BlockHeader}

/-- The first of some headers connects if it continues the chain. -/
theorem connects_head_iff (h : s.Indexes hs) (hlinked : Linked hs) (hnew : Linked new) :
    (∀ first ∈ new.head?, s.connects first) ↔ Linked (hs ++ new) := by
  simp only [linked_append_iff, h.connects_iff]
  constructor
  · exact fun hc => ⟨hlinked, hnew, fun below hb above ha => hc above ha below hb⟩
  · exact fun hc above ha below hb => hc.2.2 below hb above ha

/-- The records that are counted are headers that continue the chain. -/
theorem exists_of_linkedPrefix (h : s.Indexes hs) (hch : Chained s.headerSize hs)
    {raw : List UInt8} {n : Nat} (hn : s.linkedPrefix raw = .ok n) :
    ∃ new, raw.take (n * s.headerSize) = concat new ∧ Chained s.headerSize (hs ++ new) := by
  obtain ⟨new, hlen, htake, hlinked, hfirst⟩ := exists_of_linkedCount hn
  obtain ⟨hraw, hsized⟩ := concat_take_of_split hlen htake
  exact ⟨new, hraw, sized_append.2 ⟨hch.sized, hsized⟩,
    (h.connects_head_iff hch.linked hlinked).1 hfirst⟩

theorem connects_eq_continues (h : s.Indexes hs) : s.connects = continues hs :=
  funext fun _ => Bool.eq_iff_iff.2 (h.connects_iff.trans continues_iff.symm)

/-- **Headers are counted up to the first that does not continue the chain.** -/
theorem linkedPrefix_concat {rest : List BlockHeader} (h : s.Indexes hs)
    (hsized : Sized s.headerSize (new ++ rest)) (hnew : Linked (hs ++ new))
    (hstop : ∀ above ∈ rest.head?, continues (hs ++ new) above = false) :
    s.linkedPrefix (concat (new ++ rest)) = .ok new.length := by
  rw [linkedPrefix, split_concat hsized, h.connects_eq_continues]
  exact linkedCount_eq hnew hstop

end Store.Indexes
end HeaderFollower

import NlsSdk.Library.Mux

/-!
# The order on a multiplexed wire

A wire that several chunk queues are sent to in turns carries what was added to each of them in the
order of the additions: nothing is lost, sent twice or overtaken by a chunk of its own queue.
-/
namespace NlsSdk.Library

namespace ChunkQueue

variable {β : Type*}

/-- A drain begins some of the chunks it finds whole, and stops inside the last of them. -/
lemma drainWhole_begins (n : ℕ) (cs : List (List β)) :
    ∃ begun, cs = begun ++ (drainWhole n cs).whole ∧
      cs.flatten.take n ++ (drainWhole n cs).cut = begun.flatten ∧
      ((drainWhole n cs).cut = [] ∨
        ∃ done f, begun = done ++ [f] ∧ (drainWhole n cs).cut <:+ f) := by
  induction cs generalizing n with
  | nil => exact ⟨[], by cases n <;> simp [drainWhole]⟩
  | cons c cs ih =>
    cases n with
    | zero => exact ⟨[], by simp [drainWhole]⟩
    | succ n =>
      by_cases inside : n + 1 < c.length
      · have short : n + 1 - c.length = 0 := by omega
        refine ⟨[c], by simp [drainWhole, inside], ?_, Or.inr ⟨[], c, rfl, ?_⟩⟩
        · simp [drainWhole, inside, List.take_append, short]
        · simpa [drainWhole, inside] using List.drop_suffix (n + 1) c
      · obtain ⟨begun, split, taken, last⟩ := ih (n + 1 - c.length)
        have all : c.take (n + 1) = c := List.take_of_length_le (by omega)
        rw [drainWhole, if_neg inside]
        refine ⟨c :: begun, by rw [List.cons_append, ← split], ?_, last.imp_right ?_⟩
        · rw [List.flatten_cons, List.take_append, all, List.append_assoc, taken, List.flatten_cons]
        · rintro ⟨done, f, rfl, rest⟩
          exact ⟨c :: done, f, rfl, rest⟩

/-- What a drain hands out, with the rest of the chunk it stops in, is the rest of the chunk begun
before and the chunks it begins. -/
theorem drain_begins (n : ℕ) (q : ChunkQueue β) :
    ∃ begun, q.whole = begun ++ (q.drain n).whole ∧
      q.peek n ++ (q.drain n).cut = q.cut ++ begun.flatten ∧
      ((q.drain n).cut = [] ∨ (begun = [] ∧ (q.drain n).cut <:+ q.cut) ∨
        ∃ done f, begun = done ++ [f] ∧ (q.drain n).cut <:+ f) := by
  obtain ⟨c, cs⟩ := q
  by_cases inside : n < c.length
  · have short : n - c.length = 0 := by omega
    refine ⟨[], by simp [drain, inside], ?_, Or.inr (Or.inl ⟨rfl, ?_⟩)⟩
    · simp [peek, drain, inside, List.take_append, short]
    · simpa [drain, inside] using List.drop_suffix n c
  · obtain ⟨begun, split, taken, last⟩ := drainWhole_begins (n - c.length) cs
    have all : c.take n = c := List.take_of_length_le (by omega)
    have rest : drain n ⟨c, cs⟩ = drainWhole (n - c.length) cs := by simp [drain, inside]
    rw [rest]
    refine ⟨begun, split, ?_, last.imp_right Or.inr⟩
    rw [peek, bytes_mk, List.take_append, all, List.append_assoc, taken]

end ChunkQueue

namespace Mux

variable {ι β : Type*} [DecidableEq ι] {pre wire : List β} {qs : ι → ChunkQueue β}
  {first : ι → List (List β)} {added log : List (Option ι × List β)}

/-- The chunks of a log that belong to a queue, in their order. -/
def part (i : ι) (log : List (Option ι × List β)) : List (List β) :=
  (log.filter (·.1 = some i)).map (·.2)

@[simp] lemma part_nil (i : ι) : part i ([] : List (Option ι × List β)) = [] := rfl

@[simp] lemma part_append (i : ι) (log log' : List (Option ι × List β)) :
    part i (log ++ log') = part i log ++ part i log' := by
  simp [part]

lemma part_own (i : ι) (cs : List (List β)) : part i (cs.map (some i, ·)) = cs := by
  induction cs with
  | nil => rfl
  | cons c cs ih => simpa [part] using ih

lemma part_other {i j : ι} (ne : i ≠ j) (cs : List (List β)) :
    part i (cs.map (some j, ·)) = [] := by
  simp [part, Ne.symm ne]

lemma part_direct (i : ι) (c : List β) : part i [(none, c)] = [] := by
  simp [part]

/-- The wire behind `pre` carries the chunks of `log`, the last one perhaps not finished. Each queue
found the chunks `first` waiting; what it contributed to the log and what still waits is these and
what was added to it, in this order. -/
structure Ordered (pre wire : List β) (qs : ι → ChunkQueue β) (first : ι → List (List β))
    (added log : List (Option ι × List β)) : Prop where
  conserved : ∀ i, part i log ++ (qs i).whole = first i ++ part i added
  sent : ∃ k, Only qs k ∧ wire ++ (qs k).cut = pre ++ (log.map (·.2)).flatten ∧
    ((qs k).cut = [] ∨ ∃ done f, log = done ++ [(some k, f)] ∧ (qs k).cut <:+ f)

theorem Ordered.fresh [Inhabited ι] (boundary : ∀ i, (qs i).cut = []) (pre : List β) :
    Ordered pre pre qs (fun i => (qs i).whole) [] [] where
  conserved := fun i => by simp
  sent := ⟨default, fun j _ => boundary j, by simp [boundary], Or.inl (boundary _)⟩

theorem Ordered.add (ordered : Ordered pre wire qs first added log) (i : ι) (c : List β) :
    Ordered pre wire (Function.update qs i ((qs i).add c)) first (added ++ [(some i, c)]) log := by
  have same (j : ι) : (Function.update qs i ((qs i).add c) j).cut = (qs j).cut := by
    by_cases own : j = i
    · subst own
      simp
    · simp [own]
  refine ⟨fun j => ?_, ?_⟩
  · have before := ordered.conserved j
    by_cases own : j = i
    · subst own
      have put := part_own j [c]
      rw [List.map_singleton] at put
      rw [Function.update_self, ChunkQueue.whole_add, ← List.append_assoc, before, part_append, put,
        List.append_assoc]
    · have put := part_other own [c]
      rw [List.map_singleton] at put
      rw [Function.update_of_ne own, before, part_append, put, List.append_nil]
  · obtain ⟨k, only, carried, begun⟩ := ordered.sent
    refine ⟨k, only.add i c, ?_, ?_⟩
    · rw [same, carried]
    · rwa [same]

/-- Sending from the only queue that may be inside a chunk keeps the order. -/
theorem Ordered.send (ordered : Ordered pre wire qs first added log) {i : ι} (only : Only qs i)
    (n : ℕ) : ∃ begun : List (List β), Ordered pre (wire ++ (qs i).peek n)
      (Function.update qs i ((qs i).drain n)) first added (log ++ begun.map (some i, ·)) := by
  obtain ⟨begun, split, taken, last⟩ := (qs i).drain_begins n
  obtain ⟨k, onlyK, carried, inside⟩ := ordered.sent
  -- before the send the wire ends inside a chunk of this queue, or of none
  have here : wire ++ (qs i).cut = pre ++ (log.map (·.2)).flatten ∧
      ((qs i).cut = [] ∨ ∃ done f, log = done ++ [(some i, f)] ∧ (qs i).cut <:+ f) := by
    by_cases own : k = i
    · subst own
      exact ⟨carried, inside⟩
    · rw [only k own] at carried
      rw [onlyK i (Ne.symm own)]
      exact ⟨carried, Or.inl rfl⟩
  refine ⟨begun, fun j => ?_, i, only.update _, ?_, ?_⟩
  · have before := ordered.conserved j
    by_cases own : j = i
    · subst own
      rw [Function.update_self, part_append, part_own, List.append_assoc, ← split, before]
    · rw [Function.update_of_ne own, part_append, part_other own, List.append_nil, before]
  · have chunks : (begun.map fun c => (some i, c)).map Prod.snd = begun := by
      rw [List.map_map]
      exact List.map_id begun
    rw [Function.update_self, List.append_assoc, taken, ← List.append_assoc, here.1, List.map_append,
      chunks, List.flatten_append, List.append_assoc]
  · rw [Function.update_self]
    obtain none | ⟨rfl, rest⟩ | ⟨done, f, rfl, rest⟩ := last
    · exact Or.inl none
    · obtain none | ⟨done, f, rfl, cut⟩ := here.2
      · rw [none, List.suffix_nil] at rest
        exact Or.inl rest
      · exact Or.inr ⟨done, f, by simp, rest.trans cut⟩
    · refine Or.inr ⟨log ++ done.map (some i, ·), f, ?_, rest⟩
      rw [List.map_append, List.map_singleton, List.append_assoc]

/-- A chunk that bypasses the queues goes out whole between two chunks. -/
theorem Ordered.direct (ordered : Ordered pre wire qs first added log)
    (boundary : ∀ i, (qs i).cut = []) (c : List β) :
    Ordered pre (wire ++ c) qs first added (log ++ [(none, c)]) where
  conserved := fun i => by
    rw [part_append, part_direct, List.append_nil]
    exact ordered.conserved i
  sent := by
    obtain ⟨k, only, carried, -⟩ := ordered.sent
    refine ⟨k, only, ?_, Or.inl (boundary k)⟩
    rw [boundary k, List.append_nil] at carried ⊢
    rw [carried]
    simp

/-- The wire is the finished chunks and the part written of the one that is begun. -/
theorem Ordered.finished (ordered : Ordered pre wire qs first added log) :
    ∃ done begun h, log = done ++ begun ∧ wire = pre ++ (done.map (·.2)).flatten ++ h ∧
      begun.length ≤ 1 ∧ h <+: (begun.map (·.2)).flatten := by
  obtain ⟨k, -, carried, none | ⟨done, f, rfl, h, rfl⟩⟩ := ordered.sent
  · rw [none, List.append_nil] at carried
    exact ⟨log, [], [], by simp, by simp [carried], by simp, by simp⟩
  · refine ⟨done, [(some k, h ++ (qs k).cut)], h, rfl, ?_, le_rfl, by simp⟩
    refine List.append_cancel_right (carried.trans ?_)
    simp

end Mux

end NlsSdk.Library

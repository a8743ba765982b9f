import Mathlib.Logic.Function.Basic
import NlsSdk.Library.ChunkQueue

/-!
# Several chunk queues written to one wire

Each queue is sent from in any amounts. As long as no queue is sent from while
another one is inside a chunk, the wire carries whole chunks one after another,
the last of them perhaps not finished yet.
-/
namespace NlsSdk.Library.Mux

open NlsSdk.Library

variable {ι β : Type*} {P : List β → Prop} {pre wire : List β}
  {qs : ι → ChunkQueue β}

/-- Some whole `P` chunks follow one another on the wire behind `pre`, the last
one possibly incomplete. -/
def Framed (P : List β → Prop) (pre wire : List β) : Prop :=
  ∃ fs : List (List β), (∀ f ∈ fs, P f) ∧ pre <+: wire ∧ wire <+: pre ++ fs.flatten

/-- All queues but `i` are at a chunk boundary. -/
def Only (qs : ι → ChunkQueue β) (i : ι) : Prop := ∀ j, j ≠ i → (qs j).cut = []

theorem Only.add [DecidableEq ι] {i : ι} (only : Only qs i) (j : ι) (c : List β) :
    Only (Function.update qs j ((qs j).add c)) i := by
  intro k hk
  by_cases same : k = j
  · subst same
    simpa using only k hk
  · simpa [same] using only k hk

theorem Only.update [DecidableEq ι] {i : ι} (only : Only qs i) (q : ChunkQueue β) :
    Only (Function.update qs i q) i := by
  intro j hj
  rw [Function.update_of_ne hj]
  exact only j hj

/-- Over an empty queue all of them are at a chunk boundary. -/
theorem Only.boundary {i : ι} (only : Only qs i) (empty : (qs i).length = 0) (j : ι) :
    (qs j).cut = [] := by
  by_cases same : j = i
  · exact same ▸ ChunkQueue.cut_eq_nil_of_length empty
  · exact only j same

theorem boundary_of_only [Nontrivial ι] (only : ∀ i, Only qs i) (j : ι) : (qs j).cut = [] := by
  obtain ⟨i, hi⟩ := exists_ne j
  exact only i j hi.symm

/-- The wire ends in the part written of the one chunk that is begun. -/
structure Inv (P : List β → Prop) (pre wire : List β) (qs : ι → ChunkQueue β) : Prop where
  whole : ∀ i, ∀ c ∈ (qs i).whole, P c
  sent : ∃ (done : List (List β)) (h : List β) (i : ι),
    wire = pre ++ done.flatten ++ h ∧ (∀ f ∈ done, P f) ∧ Only qs i ∧ Begun P h (qs i).cut

theorem Inv.framed (inv : Inv P pre wire qs) : Framed P pre wire := by
  obtain ⟨done, h, i, rfl, good, -, begun⟩ := inv.sent
  rcases begun with ⟨-, rfl⟩ | ⟨-, frame⟩
  · exact ⟨done, good, by simp, by simp⟩
  · refine ⟨done ++ [h ++ (qs i).cut], ?_, by simp [List.append_assoc], ?_⟩
    · simpa [or_imp, forall_and] using ⟨good, frame⟩
    · simp only [List.flatten_append, List.flatten_cons, List.flatten_nil, List.append_nil,
        ← List.append_assoc]
      exact List.prefix_append _ _

theorem Framed.mono {Q : List β → Prop} (weaker : ∀ f, P f → Q f) (framed : Framed P pre wire) :
    Framed Q pre wire := by
  obtain ⟨fs, good, before, behind⟩ := framed
  exact ⟨fs, fun f hf => weaker f (good f hf), before, behind⟩

/-- A wire that neither starts with a chunk nor stops inside one is not framed. -/
theorem not_framed {w : List β} (nonempty : w ≠ []) (clash : ∀ f, P f → ¬w <+: f ∧ ¬f <+: w) :
    ¬Framed P pre (pre ++ w) := by
  rintro ⟨fs, good, -, within⟩
  rw [List.prefix_append_right_inj] at within
  cases fs with
  | nil => exact nonempty (List.prefix_nil.mp within)
  | cons f fs =>
    obtain ⟨inside, past⟩ := clash f (good f (by simp))
    rcases List.prefix_or_prefix_of_prefix within (List.prefix_append f fs.flatten) with h | h
    · exact inside h
    · exact past h

theorem Inv.mono {Q : List β → Prop} (weaker : ∀ f, P f → Q f) (inv : Inv P pre wire qs) :
    Inv Q pre wire qs := by
  obtain ⟨done, h, i, wire_eq, good, only, begun⟩ := inv.sent
  refine ⟨fun j c hc => weaker c (inv.whole j c hc), done, h, i, wire_eq,
    fun f hf => weaker f (good f hf), only, ?_⟩
  rcases begun with none | ⟨cut, frame⟩
  · exact Or.inl none
  · exact Or.inr ⟨cut, weaker _ frame⟩

/-- Nothing is begun and nothing is written yet. -/
theorem Inv.fresh [Inhabited ι] (whole : ∀ i, ∀ c ∈ (qs i).whole, P c)
    (boundary : ∀ i, (qs i).cut = []) (pre : List β) : Inv P pre pre qs where
  whole := whole
  sent := ⟨[], [], default, by simp, by simp, fun j _ => boundary j, Or.inl ⟨boundary _, rfl⟩⟩

theorem Inv.add [DecidableEq ι] (inv : Inv P pre wire qs) (i : ι) {c : List β} (hc : P c) :
    Inv P pre wire (Function.update qs i ((qs i).add c)) := by
  have same (j : ι) : (Function.update qs i ((qs i).add c) j).cut = (qs j).cut := by
    by_cases h : j = i
    · subst h; simp
    · simp [h]
  refine ⟨?_, ?_⟩
  · intro j d hd
    by_cases h : j = i
    · subst h
      simp only [Function.update_self, ChunkQueue.whole_add, List.mem_append,
        List.mem_singleton] at hd
      rcases hd with old | rfl
      · exact inv.whole j d old
      · exact hc
    · rw [Function.update_of_ne h] at hd
      exact inv.whole j d hd
  · obtain ⟨done, h, k, wire_eq, good, only, begun⟩ := inv.sent
    exact ⟨done, h, k, wire_eq, good, fun j hj => (same j).trans (only j hj),
      by rw [same]; exact begun⟩

/-- Sending from the only queue that may be inside a chunk keeps the wire framed. -/
theorem Inv.send [DecidableEq ι] (inv : Inv P pre wire qs) {i : ι} (only : Only qs i) (n : ℕ) :
    Inv P pre (wire ++ (qs i).peek n) (Function.update qs i ((qs i).drain n)) := by
  obtain ⟨done, h, k, rfl, good, onlyK, begun⟩ := inv.sent
  have begunI : Begun P h (qs i).cut := by
    by_cases hk : k = i
    · exact hk ▸ begun
    · rw [only k hk] at begun
      rw [onlyK i (Ne.symm hk)]
      exact begun
  obtain ⟨more, h', split, goodMore, begun'⟩ := ChunkQueue.drain_spec n begunI (inv.whole i)
  refine ⟨?_, done ++ more, h', i, ?_, ?_, ?_, by simpa using begun'⟩
  · intro j d hd
    by_cases hj : j = i
    · subst hj
      rw [Function.update_self] at hd
      exact inv.whole j d ((ChunkQueue.whole_drain n _).mem hd)
    · rw [Function.update_of_ne hj] at hd
      exact inv.whole j d hd
  · simp only [List.append_assoc, List.flatten_append, ← split]
  · intro f hf
    rcases List.mem_append.mp hf with old | new
    · exact good f old
    · exact goodMore f new
  · exact only.update _

/-- A chunk that bypasses the queues may go out whole between two chunks. -/
theorem Inv.direct (inv : Inv P pre wire qs) (boundary : ∀ i, (qs i).cut = []) {c : List β}
    (hc : P c) : Inv P pre (wire ++ c) qs := by
  obtain ⟨done, h, k, rfl, good, only, begun⟩ := inv.sent
  rcases begun with ⟨cut, rfl⟩ | ⟨cut, -⟩
  · refine ⟨inv.whole, done ++ [c], [], k, by simp, ?_, only, Or.inl ⟨cut, rfl⟩⟩
    simpa [or_imp, forall_and] using ⟨good, hc⟩
  · exact absurd (boundary k) cut

/-! ## A preamble in front of the chunks -/

/-- `u` is being written from queue `i` and is not out yet; behind it wait whole chunks. -/
structure Opening (P : List β → Prop) (u wire : List β) (qs : ι → ChunkQueue β) (i : ι) :
    Prop where
  only : Only qs i
  whole : ∀ j, j ≠ i → ∀ c ∈ (qs j).whole, P c
  first : ∃ cs : List (List β), (∀ c ∈ cs, P c) ∧
    ((wire = [] ∧ u ≠ [] ∧ qs i = ⟨[], u :: cs⟩) ∨ ∃ c, c ≠ [] ∧ wire ++ c = u ∧ qs i = ⟨c, cs⟩)

variable {u : List β} {i : ι}

theorem Opening.length_lt (opening : Opening P u wire qs i) : wire.length < u.length := by
  obtain ⟨cs, -, ⟨rfl, nonempty, -⟩ | ⟨c, nonempty, rfl, -⟩⟩ := opening.first
  · simpa [List.length_pos_iff] using nonempty
  · simpa [List.length_pos_iff] using nonempty

theorem Opening.prefix (opening : Opening P u wire qs i) : wire <+: u := by
  obtain ⟨cs, -, ⟨rfl, -, -⟩ | ⟨c, -, rfl, -⟩⟩ := opening.first
  · exact List.nil_prefix
  · exact List.prefix_append _ _

theorem Opening.length_pos (opening : Opening P u wire qs i) : 0 < (qs i).length := by
  obtain ⟨cs, -, ⟨-, nonempty, queue⟩ | ⟨c, nonempty, -, queue⟩⟩ := opening.first
  · have := List.length_pos_iff.mpr nonempty
    simp only [queue, ChunkQueue.length, ChunkQueue.bytes_mk, List.flatten_cons, List.nil_append,
      List.length_append]
    omega
  · have := List.length_pos_iff.mpr nonempty
    simp only [queue, ChunkQueue.length, ChunkQueue.bytes_mk, List.length_append]
    omega

theorem Opening.mono {Q : List β → Prop} (weaker : ∀ f, P f → Q f)
    (opening : Opening P u wire qs i) : Opening Q u wire qs i := by
  obtain ⟨cs, good, first⟩ := opening.first
  exact ⟨opening.only, fun j hj c hc => weaker c (opening.whole j hj c hc), cs,
    fun c hc => weaker c (good c hc), first⟩

/-- A preamble put into an empty queue. -/
theorem Opening.begin [DecidableEq ι] (nonempty : u ≠ []) (empty : qs i = ⟨[], []⟩)
    (boundary : ∀ j, (qs j).cut = []) (whole : ∀ j, ∀ c ∈ (qs j).whole, P c) :
    Opening P u [] (Function.update qs i ((qs i).add u)) i where
  only := Only.update (fun j _ => boundary j) _
  whole := fun j hj c hc => by
    rw [Function.update_of_ne hj] at hc
    exact whole j c hc
  first := ⟨[], by simp, Or.inl ⟨rfl, nonempty, by simp [empty, ChunkQueue.add]⟩⟩

theorem Opening.add [DecidableEq ι] (opening : Opening P u wire qs i) (j : ι) {c : List β}
    (hc : P c) : Opening P u wire (Function.update qs j ((qs j).add c)) i where
  only := opening.only.add j c
  whole := fun k hk d hd => by
    by_cases h : k = j
    · subst h
      simp only [Function.update_self, ChunkQueue.whole_add, List.mem_append,
        List.mem_singleton] at hd
      rcases hd with old | rfl
      · exact opening.whole k hk d old
      · exact hc
    · rw [Function.update_of_ne h] at hd
      exact opening.whole k hk d hd
  first := by
    obtain ⟨cs, good, first⟩ := opening.first
    by_cases h : i = j
    · subst h
      refine ⟨cs ++ [c], by simpa [or_imp, forall_and] using ⟨good, hc⟩, ?_⟩
      rcases first with ⟨none, nonempty, queue⟩ | ⟨d, cut, begun, queue⟩
      · exact Or.inl ⟨none, nonempty, by simp [queue, ChunkQueue.add]⟩
      · exact Or.inr ⟨d, cut, begun, by simp [queue, ChunkQueue.add]⟩
    · exact ⟨cs, good, by simpa [h] using first⟩

/-- Behind the preamble the queue hands out its chunks. -/
lemma inv_behind {cs : List (List β)} (good : ∀ c ∈ cs, P c) (only : Only qs i)
    (whole : ∀ j, j ≠ i → ∀ c ∈ (qs j).whole, P c) {m : ℕ}
    (queue : qs i = ChunkQueue.drainWhole m cs) : Inv P u (u ++ cs.flatten.take m) qs := by
  obtain ⟨done, h, split, goodDone, begun⟩ := ChunkQueue.drainWhole_spec m good
  refine ⟨fun j c hc => ?_, done, h, i, by simp [split], goodDone, only, by rwa [queue]⟩
  by_cases hj : j = i
  · subst hj
    rw [queue] at hc
    exact good c ((ChunkQueue.whole_drainWhole m cs).mem hc)
  · exact whole j hj c hc

/-- What is sent from the queue of the preamble is more of it, or its end and chunks behind it. -/
theorem Opening.send [DecidableEq ι] (opening : Opening P u wire qs i) (n : ℕ) :
    Opening P u (wire ++ (qs i).peek n) (Function.update qs i ((qs i).drain n)) i ∨
      Inv P u (wire ++ (qs i).peek n) (Function.update qs i ((qs i).drain n)) := by
  obtain ⟨cs, good, first⟩ := opening.first
  have only := opening.only.update ((qs i).drain n)
  have rest (j : ι) (hj : j ≠ i) : ∀ c ∈ (Function.update qs i ((qs i).drain n) j).whole, P c := by
    rw [Function.update_of_ne hj]; exact opening.whole j hj
  rcases first with ⟨rfl, nonempty, queue⟩ | ⟨c, cut, rfl, queue⟩
  · cases n with
    | zero =>
      refine Or.inl ⟨only, rest, cs, good, Or.inl ⟨by simp [ChunkQueue.peek], nonempty, ?_⟩⟩
      simp [queue, ChunkQueue.drain, ChunkQueue.drainWhole]
    | succ n =>
      by_cases inside : n + 1 < u.length
      · have short : n + 1 - u.length = 0 := by omega
        refine Or.inl ⟨only, rest, cs, good, Or.inr ⟨u.drop (n + 1), by simpa using inside, ?_, ?_⟩⟩
        · simp [queue, ChunkQueue.peek, List.take_append, short]
        · simp [queue, ChunkQueue.drain, ChunkQueue.drainWhole, inside]
      · have all : u.take (n + 1) = u := List.take_of_length_le (by omega)
        have sent : ([] : List β) ++ (qs i).peek (n + 1) =
            u ++ cs.flatten.take (n + 1 - u.length) := by
          simp [queue, ChunkQueue.peek, List.take_append, all]
        rw [sent]
        refine Or.inr (inv_behind good only rest ?_)
        simp [queue, ChunkQueue.drain, ChunkQueue.drainWhole, inside]
  · by_cases inside : n < c.length
    · have short : n - c.length = 0 := by omega
      refine Or.inl ⟨only, rest, cs, good, Or.inr ⟨c.drop n, by simpa using inside, ?_, ?_⟩⟩
      · simp [queue, ChunkQueue.peek, List.take_append, short]
      · simp [queue, ChunkQueue.drain, inside]
    · have all : c.take n = c := List.take_of_length_le (by omega)
      have sent : wire ++ (qs i).peek n = wire ++ c ++ cs.flatten.take (n - c.length) := by
        simp [queue, ChunkQueue.peek, List.take_append, all]
      rw [sent]
      refine Or.inr (inv_behind good only rest ?_)
      simp [queue, ChunkQueue.drain, inside]

end NlsSdk.Library.Mux

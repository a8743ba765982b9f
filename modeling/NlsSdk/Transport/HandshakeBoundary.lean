import NlsSdk.Transport.FreshConnection

/-!
# Where the answer to the upgrade request ends

A 101 and the frames behind it, cut into reads in any way: what the handshake
takes from the read buffer, compared with the answer itself.
-/
namespace NlsSdk.Transport

open Library

/-! ## Searching -/

lemma find_length {pat s : Bytes} {i : ℕ} (h : find pat s = some i) :
    i + pat.length ≤ s.length := by
  induction s generalizing i with
  | nil =>
    rw [find] at h
    split at h
    · rename_i empty
      cases h
      rw [empty]
      rfl
    · cases h
  | cons b s ih =>
    rw [find] at h
    split at h
    · rename_i here
      cases h
      have length := (List.isPrefixOf_iff_prefix.mp here).length_le
      omega
    · obtain ⟨k, found, rfl⟩ := Option.map_eq_some_iff.mp h
      have := ih found
      rw [List.length_cons]
      omega

/-- What is found is the pattern. -/
lemma find_getElem? {pat s : Bytes} {i : ℕ} (h : find pat s = some i) {j : ℕ}
    (inside : j < pat.length) : s[i + j]? = pat[j]? := by
  induction s generalizing i with
  | nil =>
    have := find_length h
    rw [List.length_nil] at this
    omega
  | cons b s ih =>
    rw [find] at h
    split at h
    · rename_i here
      cases h
      obtain ⟨rest, is⟩ := List.isPrefixOf_iff_prefix.mp here
      rw [Nat.zero_add, ← is, List.getElem?_append_left inside]
    · obtain ⟨k, found, rfl⟩ := Option.map_eq_some_iff.mp h
      rw [Nat.add_right_comm, List.getElem?_cons_succ]
      exact ih found

/-- A text with the pattern in it has a first occurrence that is not behind that one. -/
lemma find_le (front pat back : Bytes) :
    ∃ i, find pat (front ++ (pat ++ back)) = some i ∧ i ≤ front.length := by
  induction front with
  | nil =>
    refine ⟨0, ?_, le_rfl⟩
    rw [List.nil_append]
    cases split : pat ++ back with
    | nil => rw [find, if_pos (List.append_eq_nil_iff.mp split).1]
    | cons b rest =>
      rw [find, if_pos]
      rw [List.isPrefixOf_iff_prefix, ← split]
      exact List.prefix_append pat back
  | cons b front ih =>
    obtain ⟨i, found, early⟩ := ih
    rw [List.cons_append, find]
    split
    · exact ⟨0, rfl, Nat.zero_le _⟩
    · refine ⟨i + 1, ?_, ?_⟩
      · rw [found, Option.map_some]
      · rw [List.length_cons]
        omega

/-- A pattern whose first byte does not come again in it does not overlap with itself. -/
lemma find_apart {a : UInt8} {pat front back : Bytes} {i : ℕ} (once : a ∉ pat)
    (h : find (a :: pat) (front ++ (a :: pat ++ back)) = some i) (early : i < front.length) :
    i + (a :: pat).length ≤ front.length := by
  by_contra overlap
  rw [List.length_cons] at overlap
  obtain ⟨j, place⟩ : ∃ j, front.length = i + (j + 1) := ⟨front.length - i - 1, by omega⟩
  have same := @find_getElem? _ _ _ h (j + 1) (by rw [List.length_cons]; omega)
  rw [← place, List.getElem?_append_right le_rfl, Nat.sub_self, List.cons_append,
    List.getElem?_cons_zero, List.getElem?_cons_succ] at same
  exact once (List.mem_of_getElem? same.symm)

/-- The first occurrence does not depend on what follows. -/
lemma find_append {pat s : Bytes} {i : ℕ} (h : find pat s = some i) (t : Bytes) :
    find pat (s ++ t) = some i := by
  induction s generalizing i with
  | nil =>
    rw [find] at h
    split at h
    · rename_i empty
      cases h
      rw [empty]
      cases t <;> rfl
    · cases h
  | cons b s ih =>
    rw [find] at h
    rw [List.cons_append, find]
    split at h
    · rename_i here
      cases h
      rw [if_pos]
      rw [List.isPrefixOf_iff_prefix] at here ⊢
      exact here.trans (List.prefix_append (b :: s) t)
    · rename_i later
      obtain ⟨k, found, rfl⟩ := Option.map_eq_some_iff.mp h
      have inside := find_length found
      rw [if_neg, ih found]
      · rfl
      · rw [List.isPrefixOf_iff_prefix] at later ⊢
        intro here
        apply later
        apply List.prefix_of_prefix_length_le here (List.prefix_append (b :: s) t)
        rw [List.length_cons]
        omega

/-- Before the end of the first occurrence there is none. -/
lemma find_of_isPrefix {pat s b : Bytes} {i : ℕ} (h : find pat s = some i) (part : b <+: s)
    (short : b.length < i + pat.length) : find pat b = none := by
  cases found : find pat b with
  | none => rfl
  | some j =>
    exfalso
    obtain ⟨rest, rfl⟩ := part
    have same := (find_append found rest).symm.trans h
    obtain rfl := Option.some.inj same
    have := find_length found
    omega

/-! ## The answer -/

/-- A 101 answer with any headers: text with its first empty line at the end. -/
structure UpgradeAnswer (response : Bytes) : Prop where
  status : ascii "HTTP/1.1 101 " <+: response
  text : ∀ b ∈ response, b ≠ 0
  ends : find httpHeaderEndString response = some (response.length - 4)

lemma cString_append {s : Bytes} (text : ∀ b ∈ s, b ≠ 0) (t : Bytes) :
    cString (s ++ t) = s ++ cString t := by
  rw [cString, cString, List.takeWhile_append_of_pos]
  intro b hb
  simpa using text b hb

lemma cString_eq {s : Bytes} (text : ∀ b ∈ s, b ≠ 0) : cString s = s := by
  have := cString_append text []
  rw [List.append_nil] at this
  rw [this, cString, List.takeWhile_nil, List.append_nil]

namespace UpgradeAnswer

variable {response : Bytes}

lemma four_le (answer : UpgradeAnswer response) : 4 ≤ response.length := by
  have long := answer.status.length_le
  have size : (ascii "HTTP/1.1 101 ").length = 13 := by decide
  omega

/-- The status code of a 101 is read whatever follows. -/
lemma getTargetLen_eq (answer : UpgradeAnswer response) (rest : Bytes) :
    getTargetLen (response ++ rest) httpStatusCode httpStatusCodeEnd = 101 := by
  obtain ⟨headers, rfl⟩ := answer.status
  rw [List.append_assoc]
  generalize headers ++ rest = tail
  have start : find httpStatusCode (ascii "HTTP/1.1 101 " ++ tail) = some 0 := rfl
  have stop : findFrom httpStatusCodeEnd (ascii "HTTP/1.1 101 " ++ tail) 9 = some 12 := rfl
  have text : ((ascii "HTTP/1.1 101 " ++ tail).drop 9).take 3 = ascii "101" := rfl
  have length : httpStatusCode.length = 9 := rfl
  rw [getTargetLen, start]
  simp only [length, Nat.zero_add, stop]
  rw [if_neg (by norm_num), text]
  decide

/-- An incomplete answer is waited for. -/
lemma responsePackage_part (answer : UpgradeAnswer response) {b : Bytes} (part : b <+: response)
    (short : b.length < response.length) (ws : WebSocketTcp) :
    ws.responsePackage b = (ws, .ok b.length) := by
  have text : ∀ c ∈ b, c ≠ 0 := fun c hc => answer.text c (part.subset hc)
  have none_ : find httpHeaderEndString (cString b) = none := by
    rw [cString_eq text]
    apply find_of_isPrefix answer.ends part
    have four : httpHeaderEndString.length = 4 := rfl
    have := answer.four_le
    omega
  rw [WebSocketTcp.responsePackage, if_pos none_]

/-- A complete answer is accepted, whatever came with it. -/
lemma responsePackage_whole (answer : UpgradeAnswer response) (rest : Bytes) {ws : WebSocketTcp}
    (code : ws.httpCode = 0) :
    ws.responsePackage (response ++ rest) = ({ ws with httpCode := 101 }, .ok 0) := by
  have some_ : find httpHeaderEndString (cString (response ++ rest)) =
      some (response.length - 4) := by
    rw [cString_append answer.text]
    exact find_append answer.ends _
  have value : getTargetLen (cString (response ++ rest)) httpStatusCode httpStatusCodeEnd =
      101 := by
    rw [cString_append answer.text]
    exact answer.getTargetLen_eq _
  simp [WebSocketTcp.responsePackage, some_, code, value]

end UpgradeAnswer

/-! ## Reads of the answer -/

/-- Read until the answer is accepted: the receiving side then, and the reads still to come. -/
def handshake (r : Reader) : List Bytes → Option (Reader × List Bytes)
  | [] => none
  | piece :: pieces =>
    let answer := Reader.gatewayResponse true { r with reads := [some piece] }
    match answer.2 with
    | .ok 0 => some (answer.1, pieces)
    | .ok _ => handshake answer.1 pieces
    | .error _ => none

/-- What one call of `nlsReceive` can give. -/
def IsRead (piece : Bytes) : Prop := piece ≠ [] ∧ piece.length ≤ readBufferSize

instance (piece : Bytes) : Decidable (IsRead piece) := inferInstanceAs (Decidable (_ ∧ _))

lemma gatewayResponse_read {r : Reader} {piece : Bytes} (read : IsRead piece) :
    Reader.gatewayResponse true { r with reads := [some piece] } =
      let response := r.webSocket.responsePackage (r.readEvBuffer ++ piece)
      let after : Reader := ⟨response.1, r.wsType, r.readEvBuffer ++ piece, []⟩
      (if response.2.isZero then after.drain after.readEvBuffer.length else after, response.2) := by
  obtain ⟨k, size⟩ : ∃ k, min piece.length readBufferSize = k + 1 := by
    have some_ := List.length_pos_of_ne_nil read.1
    have positive : 0 < readBufferSize := by decide
    exact ⟨min piece.length readBufferSize - 1, by omega⟩
  simp only [Reader.gatewayResponse, Reader.nlsReceive, size, List.take_of_length_le read.2,
    List.drop_of_length_le read.2, Bool.not_true, Bool.false_eq_true, if_false, if_true]

/-- The handshake ends at the read that brings the end of the answer, with an empty buffer. -/
theorem handshake_ends {response frames : Bytes} (answer : UpgradeAnswer response) {r : Reader}
    (code : r.webSocket.httpCode = 0) {pieces : List Bytes} (reads : ∀ p ∈ pieces, IsRead p)
    (short : r.readEvBuffer.length < response.length)
    (stream : r.readEvBuffer ++ pieces.flatten = response ++ frames) :
    ∃ taken piece left r', pieces = taken ++ piece :: left ∧
      (r.readEvBuffer ++ taken.flatten).length < response.length ∧
      response.length ≤ (r.readEvBuffer ++ taken.flatten ++ piece).length ∧
      handshake r pieces = some (r', left) ∧ r'.readEvBuffer = [] := by
  induction pieces generalizing r with
  | nil =>
    have length := congrArg List.length stream
    rw [List.flatten_nil, List.append_nil, List.length_append] at length
    omega
  | cons piece pieces ih =>
    have read := reads piece (by simp)
    rw [List.flatten_cons, ← List.append_assoc] at stream
    rw [handshake, gatewayResponse_read read]
    by_cases whole : response.length ≤ (r.readEvBuffer ++ piece).length
    · obtain ⟨rest, more⟩ : response <+: r.readEvBuffer ++ piece := by
        apply List.prefix_of_prefix_length_le (List.prefix_append response frames) _ whole
        rw [← stream]
        exact List.prefix_append _ _
      refine ⟨[], piece, pieces, ⟨{ r.webSocket with httpCode := 101 }, r.wsType, [], []⟩, rfl,
        by simpa, by simpa using whole, ?_, ?_⟩
      · rw [← more, answer.responsePackage_whole rest code]
        simp [Reader.drain]
      · rfl
    · have part : r.readEvBuffer ++ piece <+: response := by
        apply List.prefix_of_prefix_length_le _ (List.prefix_append response frames) (by omega)
        rw [← stream]
        exact List.prefix_append _ _
      obtain ⟨k, length⟩ : ∃ k, (r.readEvBuffer ++ piece).length = k + 1 := by
        have := List.length_pos_of_ne_nil read.1
        rw [List.length_append]
        exact ⟨r.readEvBuffer.length + piece.length - 1, by omega⟩
      rw [answer.responsePackage_part part (by omega), length]
      obtain ⟨taken, last, left, r', rfl, before, after, ends, empty⟩ :=
        ih (r := ⟨r.webSocket, r.wsType, r.readEvBuffer ++ piece, []⟩) code
          (fun p hp => reads p (by simp [hp])) (by dsimp only; omega) stream
      refine ⟨piece :: taken, last, left, r', rfl, ?_, ?_, ends, empty⟩
      · rw [List.flatten_cons, ← List.append_assoc]
        exact before
      · rw [List.flatten_cons, ← List.append_assoc]
        exact after

/-! ## The boundary -/

/-- Cut the reads where a number of bytes is complete. -/
def cutAt : ℕ → List Bytes → List Bytes
  | _, [] => []
  | n, piece :: pieces =>
    if piece.length ≤ n then piece :: cutAt (n - piece.length) pieces
    else if n = 0 then piece :: pieces
    else piece.take n :: piece.drop n :: pieces

/-- The reads as events of a connection whose consumer needs nothing besides. -/
def readEvents (pieces : List Bytes) : List (Unit × List (Option Bytes)) :=
  pieces.map fun piece => ((), [some piece])

/-- The handshake takes the answer and nothing else: all bytes behind it are in the buffer or
still to come, and every consumer gets the frames it would get if they came in separate reads. -/
structure KeepsFrames (r : Reader) (response frames : Bytes) (pieces : List Bytes) : Prop where
  bytes : ∃ r' left, handshake r pieces = some (r', left) ∧ r'.readEvBuffer ++ left.flatten = frames
  separate : ∀ (τ : Type) (deliver : τ → Bytes → WebSocketFrame → τ × Ret) (isOpen : τ → Bool)
    (consumer : τ),
    (run (Connection.receive (fun _ : Unit => deliver) isOpen) ⟨r, consumer, false, []⟩
        (readEvents pieces)).consumer =
      (run (Connection.receive (fun _ : Unit => deliver) isOpen) ⟨r, consumer, false, []⟩
        (readEvents (cutAt response.length pieces))).consumer

lemma cutAt_append {taken left : List Bytes} (some_ : ∀ p ∈ left, p ≠ []) :
    cutAt taken.flatten.length (taken ++ left) = taken ++ left := by
  induction taken with
  | nil =>
    cases left with
    | nil => rfl
    | cons piece left =>
      have := List.length_pos_of_ne_nil (some_ piece (by simp))
      rw [List.nil_append, cutAt, if_neg, if_pos]
      · rfl
      · rw [List.flatten_nil, List.length_nil]
        omega
  | cons piece taken ih =>
    rw [List.cons_append, cutAt, if_pos, List.flatten_cons, List.length_append,
      Nat.add_sub_cancel_left, ih]
    rw [List.flatten_cons, List.length_append]
    omega

lemma upgradeAnswer_empty : UpgradeAnswer (httpAnswer "101 ") := by
  constructor
  · exact ⟨[13, 10, 13, 10], rfl⟩
  · decide +kernel
  · rfl

end NlsSdk.Transport

import NlsSdk.Transport.UrlAddress

/-!
# The parts of a URL

`urlParts` reads a URL from its separators alone. `parse_parts` says when
`parseUrlAddress` finds the same host, port and path.
-/
namespace NlsSdk.Transport

open Library

structure UrlParts where
  type : Bytes
  host : Bytes
  port : ℤ
  path : Bytes
  deriving DecidableEq, Repr

namespace UrlParts

open UrlAddress

/-- A host and a port that an `int` holds, which is `missing` where none is given. -/
def readAuthority (missing : ℤ) (authority : Bytes) : Option (Bytes × ℤ) :=
  let host := authority.takeWhile isField
  match authority.drop host.length with
  | [] => some (host, missing)
  | 58 :: number =>
    match Scanf.readInt number with
    | some (port, []) => if -2 ^ 31 ≤ port ∧ port < 2 ^ 31 then some (host, port) else none
    | _ => none
  | _ => none

/-- The authority ends at the first slash; the path is what follows that. -/
def urlParts (address : Bytes) : Option UrlParts :=
  let type := address.takeWhile isField
  match address.drop type.length with
  | 58 :: 47 :: 47 :: rest =>
    (readAuthority (if secure type then 443 else 80) (rest.takeWhile (· ≠ 47))).map fun place =>
      ⟨type, place.1, place.2, (rest.dropWhile (· ≠ 47)).tail⟩
  | _ => none

example : urlParts (ascii "wss://h/ws/v1") = some ⟨ascii "wss", ascii "h", 443, ascii "ws/v1"⟩ := by
  decide

/-- The text of a host and a port, which is left out where it is that of HTTP. -/
def hostText (host : Bytes) (port : ℤ) : Bytes :=
  if port = 80 then host else host ++ 58 :: Scanf.intDecimal port

/-- The text says which host and port it is for. -/
lemma readAuthority_hostText {host : Bytes} {port : ℤ} (field : ∀ b ∈ host, isField b = true)
    (range : -2 ^ 31 ≤ port ∧ port < 2 ^ 31) :
    readAuthority 80 (hostText host port) = some (host, port) := by
  unfold hostText readAuthority
  split
  · rename_i http
    simp only [List.takeWhile_eq_self_iff.mpr field, List.drop_length, http]
  · have front : (host ++ 58 :: Scanf.intDecimal port).takeWhile isField = host := by
      refine Scanf.takeWhile_stops field ?_
      intro b head
      cases head
      rfl
    have number := @Scanf.readInt_intDecimal [] port (by intro b head; cases head)
    rw [List.append_nil] at number
    simp only [front, List.drop_left, number, if_pos range]

/-- The port and the path as they were spelled. -/
structure Spelling (parts : UrlParts) (portPart pathPart : Bytes) : Prop where
  port_int : -2 ^ 31 ≤ parts.port ∧ parts.port < 2 ^ 31
  port : portPart = [] ∧ parts.port = (if secure parts.type then 443 else 80) ∨
    ∃ number, portPart = 58 :: number ∧ Scanf.readInt number = some (parts.port, [])
  path : pathPart = [] ∧ parts.path = [] ∨ pathPart = 47 :: parts.path

section Parts

variable {address : Bytes} {parts : UrlParts} {portPart pathPart : Bytes}

lemma readAuthority_some {missing port : ℤ} {authority host : Bytes}
    (is : readAuthority missing authority = some (host, port)) :
    ∃ portPart, authority = host ++ portPart ∧ (∀ b ∈ host, isField b = true) ∧
      (portPart = [] ∧ port = missing ∨ (-2 ^ 31 ≤ port ∧ port < 2 ^ 31) ∧
        ∃ number, portPart = 58 :: number ∧ Scanf.readInt number = some (port, [])) := by
  have whole := List.prefix_iff_eq_append.mp (@List.takeWhile_prefix _ authority isField)
  have field : ∀ b ∈ authority.takeWhile isField, isField b = true :=
    fun b is => List.mem_takeWhile_imp is
  unfold readAuthority at is
  dsimp only at is
  split at is
  · rename_i behind
    rw [Option.some.injEq, Prod.mk.injEq] at is
    rw [behind] at whole
    rw [is.1] at whole field
    exact ⟨[], whole.symm, field, .inl ⟨rfl, is.2.symm⟩⟩
  · rename_i number behind
    split at is
    · rename_i port' read
      split at is
      · rename_i range
        rw [Option.some.injEq, Prod.mk.injEq] at is
        rw [behind] at whole
        rw [is.1] at whole field
        rw [is.2] at read range
        exact ⟨58 :: number, whole.symm, field, .inr ⟨range, number, rfl, read⟩⟩
      · cases is
    · cases is
  · cases is

lemma urlParts_some (is : urlParts address = some parts) :
    ∃ portPart pathPart, address =
        parts.type ++ 58 :: 47 :: 47 :: (parts.host ++ (portPart ++ pathPart)) ∧
      (∀ b ∈ parts.type, isField b = true) ∧ (∀ b ∈ parts.host, isField b = true) ∧
      Spelling parts portPart pathPart := by
  have whole := List.prefix_iff_eq_append.mp (@List.takeWhile_prefix _ address isField)
  unfold urlParts at is
  dsimp only at is
  split at is
  · rename_i rest behind
    rw [Option.map_eq_some_iff] at is
    obtain ⟨⟨host, port⟩, read, rfl⟩ := is
    obtain ⟨portPart, authority, field, spelled⟩ := readAuthority_some read
    have range : -2 ^ 31 ≤ port ∧ port < 2 ^ 31 := by
      rcases spelled with ⟨-, is⟩ | ⟨range, -⟩
      · rw [is]
        split <;> norm_num
      · exact range
    have inner : rest.takeWhile (· ≠ 47) ++ rest.dropWhile (· ≠ 47) = rest :=
      List.takeWhile_append_dropWhile
    refine ⟨portPart, rest.dropWhile (· ≠ 47), ?_, fun b is => List.mem_takeWhile_imp is, field,
      range, spelled.imp id And.right, ?_⟩
    · rw [← List.append_assoc host, ← authority, inner, ← behind, whole]
    · cases rest_ : rest.dropWhile (· ≠ 47) with
      | nil => exact .inl ⟨rfl, rfl⟩
      | cons b behind =>
        have slash := List.head?_dropWhile_not (fun b : UInt8 => decide (b ≠ 47)) rest
        rw [rest_, List.head?_cons] at slash
        have first : b = 47 := by simpa using slash
        exact .inr (by rw [first]; rfl)
  · cases is

/-! ## What the formats read -/

lemma Spelling.stops (spelled : Spelling parts portPart pathPart) :
    Scanf.Stops isField (portPart ++ pathPart) := by
  intro b head
  rcases spelled.port with ⟨rfl, -⟩ | ⟨number, rfl, -⟩
  · rcases spelled.path with ⟨rfl, -⟩ | rfl
    · cases head
    · cases head
      rfl
  · cases head
    rfl

/-- The parts that the fields and the formats have room for. -/
structure Readable (parts : UrlParts) : Prop where
  type_some : parts.type ≠ []
  type_length : parts.type.length ≤ 10
  host_some : parts.host ≠ []
  host_length : parts.host.length ≤ 256
  path_length : parts.path.length ≤ 255
  path_word : ∀ b ∈ parts.path, Scanf.isSpace b = false

/-- `parseUrlAddress` finds the parts. -/
theorem parse_parts {url : UrlAddress} (is : urlParts (cString address) = some parts)
    (readable : Readable parts) :
    (parseUrlAddress url address).1.host = parts.host ∧
      (parseUrlAddress url address).1.port = parts.port ∧
      (parseUrlAddress url address).1.path = parts.path := by
  obtain ⟨portPart, pathPart, text, type_field, host_field, spelled⟩ := urlParts_some is
  have front : ∀ (ds : List (Scanf.Directive UrlAddress)) (s : UrlAddress),
      Scanf.scan (authority ds) (cString address) s 0 =
        Scanf.scan ds (portPart ++ pathPart) ((s.storeType parts.type).storeHost parts.host) 2 := by
    intro ds s
    rw [text]
    exact scan_fields readable.type_some type_field readable.type_length readable.host_some
      host_field readable.host_length spelled.stops
  unfold parseUrlAddress portPathFormat pathFormat portFormat hostFormat
  simp only [front]
  rcases spelled.port with ⟨rfl, port⟩ | ⟨number, rfl, read⟩
  · have colon : ∀ ds (s : UrlAddress), Scanf.scan (.literal 58 :: ds) pathPart s 2 = (s, 2) := by
      intro ds s
      rcases spelled.path with ⟨rfl, -⟩ | rfl <;> simp [Scanf.scan]
    simp only [List.nil_append, colon]
    rcases spelled.path with ⟨rfl, path⟩ | rfl
    · by_cases ssl : secure parts.type = true <;>
        simp [Scanf.scan, defaultPort, storeHost, storeType, ssl, port, path]
    · rw [Scanf.scan_literal]
      by_cases empty : parts.path = []
      · by_cases ssl : secure parts.type = true <;>
          simp [empty, Scanf.scan, defaultPort, storeHost, storeType, ssl, port]
      · rw [scan_word_end empty readable.path_length readable.path_word]
        by_cases ssl : secure parts.type = true <;>
          simp [defaultPort, storeHost, storeType, storePath, ssl, port]
  · have slash : ∀ ds (s : UrlAddress),
        Scanf.scan (.literal 47 :: ds) (58 :: number ++ pathPart) s 2 = (s, 2) := by
      intro ds s
      simp [Scanf.scan]
    have digits : Scanf.Stops Scanf.isDigit pathPart := by
      intro b head
      rcases spelled.path with ⟨rfl, -⟩ | rfl
      · cases head
      · cases head
        rfl
    have stored : ∀ ds (s : UrlAddress),
        Scanf.scan (.literal 58 :: .decimal storePort :: ds) (58 :: number ++ pathPart) s 2 =
          Scanf.scan ds pathPart { s with port := parts.port } 3 := by
      intro ds s
      rw [List.cons_append, Scanf.scan_literal, Scanf.scan, Scanf.readInt_append read digits]
      simp only [storePort, toInt_eq spelled.port_int.1 spelled.port_int.2]
    simp only [stored, slash]
    rcases spelled.path with ⟨rfl, path⟩ | rfl
    · simp [Scanf.scan, storeHost, storeType, path]
    · rw [Scanf.scan_literal]
      by_cases empty : parts.path = []
      · simp [empty, Scanf.scan, storeHost, storeType]
      · rw [scan_word_end empty readable.path_length readable.path_word]
        by_cases ssl : secure parts.type = true <;>
          simp [markSecure, storeHost, storeType, storePath, ssl]

/-- Without a host every format fails. -/
lemma parse_rejected {url : UrlAddress}
    (low : ∀ ds (s : UrlAddress), (Scanf.scan (authority ds) (cString address) s 0).2 ≤ 1) :
    (parseUrlAddress url address).2 ≠ .ok 0 := by
  have first : ∀ s, (Scanf.scan portPathFormat (cString address) s 0).2 ≠ 4 := by
    intro s full
    have := low [.literal 58, .decimal storePort, .literal 47, .word 255 storePath] s
    unfold portPathFormat at full
    omega
  have second : ∀ s, (Scanf.scan pathFormat (cString address) s 0).2 ≠ 3 := by
    intro s full
    have := low [.literal 47, .word 255 storePath] s
    unfold pathFormat at full
    omega
  have third : ∀ s, (Scanf.scan portFormat (cString address) s 0).2 ≠ 3 := by
    intro s full
    have := low [.literal 58, .decimal storePort] s
    unfold portFormat at full
    omega
  have fourth : ∀ s, (Scanf.scan hostFormat (cString address) s 0).2 ≠ 2 := by
    intro s full
    have := low [] s
    unfold hostFormat at full
    omega
  unfold parseUrlAddress
  simp only [if_neg (first _), if_neg (second _), if_neg (third _), if_neg (fourth _)]
  intro accepted
  cases accepted

lemma cut_at {field : Bytes} {k : ℕ} (long : k < field.length) :
    ∃ b behind, field = field.take k ++ b :: behind :=
  ⟨field[k], field.drop (k + 1), by
    rw [← List.drop_eq_getElem_cons long, List.take_append_drop]⟩

lemma take_ne_nil {field : Bytes} {k : ℕ} (long : k < field.length) (some_ : k ≠ 0) :
    field.take k ≠ [] := by
  intro empty
  rcases List.take_eq_nil_iff.mp empty with zero | rfl
  · exact some_ zero
  · cases long

/-- What an accepted URL has in front of its port and path. A host that is too long is cut. -/
lemma parse_host {url : UrlAddress} (is : urlParts (cString address) = some parts)
    (accepted : (parseUrlAddress url address).2 = .ok 0) :
    parts.type ≠ [] ∧ parts.type.length ≤ 10 ∧ parts.host ≠ [] ∧
      (256 < parts.host.length → (parseUrlAddress url address).1.host = parts.host.take 256) := by
  obtain ⟨portPart, pathPart, text, type_field, host_field, spelled⟩ := urlParts_some is
  have colon : ∀ rest, Scanf.Stops isField (58 :: rest) := by
    intro rest b head
    cases head
    rfl
  have type_some : parts.type ≠ [] := by
    intro empty
    refine parse_rejected (fun ds s => ?_) accepted
    rw [text, empty, List.nil_append, authority, Scanf.scan_scanset_none (colon _)]
    exact zero_le_one
  have type_length : parts.type.length ≤ 10 := by
    by_contra long
    refine parse_rejected (fun ds s => ?_) accepted
    obtain ⟨b, behind, cut⟩ := cut_at (not_le.mp long)
    have field : isField b = true :=
      type_field b (cut ▸ List.mem_append_right _ List.mem_cons_self)
    rw [text, cut, List.append_assoc, List.cons_append, authority,
      Scanf.scan_scanset_full (take_ne_nil (not_le.mp long) (by norm_num))
        (fun b is => type_field b (List.mem_of_mem_take is))
        (List.length_take_of_le (not_le.mp long).le), Scanf.scan_literal_other]
    rw [List.head?_cons, ne_eq, Option.some.injEq]
    rintro rfl
    cases field
  have start : ∀ ds (s : UrlAddress), Scanf.scan (authority ds) (cString address) s 0 =
      Scanf.scan (.scanset 256 isField storeHost :: ds) (parts.host ++ (portPart ++ pathPart))
        (s.storeType parts.type) 1 := by
    intro ds s
    rw [text, authority, Scanf.scan_scanset type_some type_field type_length (colon _),
      Scanf.scan_literal, Scanf.scan_literal, Scanf.scan_literal]
  have host_some : parts.host ≠ [] := by
    intro empty
    refine parse_rejected (fun ds s => ?_) accepted
    rw [start, empty, List.nil_append, Scanf.scan_scanset_none spelled.stops]
  refine ⟨type_some, type_length, host_some, ?_⟩
  intro long
  obtain ⟨b, behind, cut⟩ := cut_at long
  have field : isField b = true :=
    host_field b (cut ▸ List.mem_append_right _ List.mem_cons_self)
  have stored : ∀ ds (s : UrlAddress), Scanf.scan (authority ds) (cString address) s 0 =
      Scanf.scan ds (b :: (behind ++ (portPart ++ pathPart)))
        ((s.storeType parts.type).storeHost (parts.host.take 256)) 2 := by
    intro ds s
    rw [start]
    nth_rewrite 1 [cut]
    rw [List.append_assoc, List.cons_append,
      Scanf.scan_scanset_full (take_ne_nil long (by norm_num))
        (fun b is => host_field b (List.mem_of_mem_take is)) (List.length_take_of_le long.le)]
  have other : ∀ byte, isField byte = false → ∀ ds (s : UrlAddress),
      Scanf.scan (.literal byte :: ds) (b :: (behind ++ (portPart ++ pathPart))) s 2 = (s, 2) := by
    intro byte out ds s
    refine Scanf.scan_literal_other ?_
    rw [List.head?_cons, ne_eq, Option.some.injEq]
    rintro rfl
    rw [field] at out
    cases out
  unfold parseUrlAddress portPathFormat pathFormat portFormat hostFormat
  simp only [stored, other 58 rfl, other 47 rfl]
  by_cases ssl : secure parts.type = true <;>
    simp [Scanf.scan, defaultPort, storeHost, storeType, ssl]

end Parts

end UrlParts

end NlsSdk.Transport

import NlsSdk.Framework.ParserOutline

/-!
# The words of a sentence

The four loops over an array of words keep one `WordInfomation` for all of them, so that a field
which a word leaves out has the value of the last word that gave one.
-/
namespace NlsSdk.Framework

open Library
open Transport (Bytes ascii EventType NlsType NlsRetCode)

/-! ## Carried values -/

section Carry

variable {α β : Type*}

/-- The value behind a list whose elements give a new one or leave the one before. -/
def latest (given : β → Option α) : α → List β → α := List.foldl fun a b => (given b).getD a

/-- The values at the elements of a list. -/
def carry (given : β → Option α) : α → List β → List α
  | _, [] => []
  | a, b :: bs => (given b).getD a :: carry given ((given b).getD a) bs

/-- Each value comes from its element alone exactly when an element that gives none finds the
default before it. -/
theorem carry_eq_map_iff (given : β → Option α) (a d : α) (bs : List β) :
    carry given a bs = bs.map (fun b => (given b).getD d) ↔
      ∀ earlier b later, bs = earlier ++ b :: later → given b = none →
        latest given a earlier = d := by
  induction bs generalizing a with
  | nil =>
    refine iff_of_true rfl fun earlier b later split => ?_
    exact absurd split.symm (by simp)
  | cons b bs ih =>
    rw [carry, List.map_cons, List.cons.injEq, ih]
    constructor
    · rintro ⟨here, later_⟩ earlier b' later split missing
      cases earlier with
      | nil =>
        obtain ⟨rfl, -⟩ := List.cons.inj split
        rw [missing] at here
        exact here
      | cons first earlier =>
        obtain ⟨rfl, rest⟩ := List.cons.inj split
        exact later_ earlier b' later rest missing
    · intro default
      constructor
      · cases missing : given b with
        | none => exact default [] b bs rfl missing
        | some value => rfl
      · rintro earlier b' later rfl missing
        exact default (b :: earlier) b' later rfl missing

end Carry

/-! ## One word -/

namespace NlsEventInner

/-- A value with members, or null, which has none. -/
def isReadable (word : Json) : Bool := word.isObject || word.isNull

/-- The field of a word, where it has it with its type. -/
def wordField {α : Type} (asType? : Json → Option α) (key : String) (word : Json) : Option α :=
  match word with
  | .object members => (members.lookup (ascii key)).bind asType?
  | _ => none

/-- The word that an element of the array is read into. -/
def wordOf (keys : WordKeys) (wordInfo : WordInfomation) (word : Json) : WordInfomation where
  text := (wordField Json.cString? "text" word).getD wordInfo.text
  startTime := (wordField Json.int? keys.startTime word).getD wordInfo.startTime
  endTime := (wordField Json.int? keys.endTime word).getD wordInfo.endTime

lemma wordMember_eq {α : Type} (word : Json) (key : String) (asType? : Json → Option α) :
    wordMember word key asType? =
      if isReadable word then .ok (wordField asType? key word) else .error .notAnObject := by
  cases word with
  | object members =>
    change (do
      if (members.lookup (ascii key)).isSome then
        let value ← Json.get (.object members) (ascii key)
        pure (asType? value)
      else pure none : Except Json.TypeError (Option α)) = .ok (wordField asType? key (.object members))
    cases found : members.lookup (ascii key) with
    | none =>
      rw [wordField, found]
      rfl
    | some value =>
      rw [wordField, found, Json.get, found]
      rfl
  | _ => rfl

lemma readWord_eq (keys : WordKeys) (word : Json) (wordInfo : WordInfomation) :
    readWord keys word wordInfo =
      if isReadable word then .ok (wordOf keys wordInfo word) else .error .notAnObject := by
  unfold readWord
  rw [wordMember_eq, wordMember_eq, wordMember_eq]
  split <;> rfl

/-! ## The loop -/

/-- The words the loop appends, up to an element that has no members. -/
def wordsFrom (keys : WordKeys) : WordInfomation → List Json → List WordInfomation
  | _, [] => []
  | wordInfo, word :: rest =>
    if isReadable word then wordOf keys wordInfo word :: wordsFrom keys (wordOf keys wordInfo word) rest
    else []

lemma readWords_ensures (keys : WordKeys) (o : Outline) (words : List Json)
    (wordInfo : WordInfomation) :
    Ensures (fun inner : NlsEventInner => inner.outline = o)
      (fun _ inner => inner.outline =
        { o with sentenceWordsList := o.sentenceWordsList ++ wordsFrom keys wordInfo words })
      (fun inner => inner.outline =
        { o with sentenceWordsList := o.sentenceWordsList ++ wordsFrom keys wordInfo words })
      (readWords keys words wordInfo) := by
  induction words generalizing o wordInfo with
  | nil =>
    refine ensures_pure fun inner same => ?_
    rw [same, wordsFrom, List.append_nil]
  | cons word rest ih =>
    rw [readWords, readWord_eq, wordsFrom]
    by_cases readable : isReadable word
    · rw [if_pos readable, if_pos readable]
      refine ensures_bind (Q := fun next inner => next = wordOf keys wordInfo word ∧
        inner.outline = o) (ensures_pure fun inner same => ⟨rfl, same⟩) fun next => ?_
      refine ensures_bind (Q := fun _ inner => inner.outline = { o with
        sentenceWordsList := o.sentenceWordsList ++ [wordOf keys wordInfo word] } ∧
          next = wordOf keys wordInfo word) (ensures_modify ?_) fun _ => ?_
      · rintro inner ⟨is, same⟩
        refine ⟨?_, is⟩
        rw [← is, ← same]
        rfl
      · rintro inner ⟨same, is⟩
        have later := ih { o with
          sentenceWordsList := o.sentenceWordsList ++ [wordOf keys wordInfo word] } next inner same
        rw [is, List.append_assoc] at later
        rw [is]
        exact later
    · rw [if_neg readable, if_neg readable, List.append_nil]
      exact ensures_bind (Q := fun _ _ => False) (ensures_throw fun inner same => same)
        fun _ _ absurd_ => absurd_.elim

/-- The words of an object: those of its array, without one none. -/
def objectWords (env : JsonEnv) (keys : WordKeys) (object : Json) : List WordInfomation :=
  wordsFrom keys { text := [], startTime := env.startTime, endTime := env.endTime }
    (((object.member (ascii "words")).array?).getD [])

lemma readWordArray_ensures (env : JsonEnv) (keys : WordKeys) (object : Json) (o : Outline) :
    Ensures (fun inner : NlsEventInner => inner.outline = o)
      (fun _ inner => inner.outline =
        { o with sentenceWordsList := o.sentenceWordsList ++ objectWords env keys object })
      (fun inner => inner.outline = o ∨ inner.outline =
        { o with sentenceWordsList := o.sentenceWordsList ++ objectWords env keys object })
      (readWordArray env keys object) := by
  refine guarded_bind (fun _ _ inner same => .inl same) fun value found => ?_
  obtain rfl := Json.get_eq_ok found
  cases array : (object.member (ascii "words")).array? with
  | none =>
    have nothing : objectWords env keys object = [] := by
      rw [objectWords, array]
      rfl
    rw [nothing, List.append_nil]
    exact ensures_pure fun inner same => same
  | some words =>
    have all : objectWords env keys object =
        wordsFrom keys { text := [], startTime := env.startTime, endTime := env.endTime } words := by
      rw [objectWords, array]
      rfl
    rw [all]
    have reads := readWords_ensures keys o words
      { text := [], startTime := env.startTime, endTime := env.endTime }
    refine ensures_bind (reads.weaken (fun _ same => same) (fun _ _ same => same)
      fun _ same => Or.inr same) fun _ => ?_
    exact ensures_pure fun inner same => same

/-! ## The message -/

/-- Where a message of either service has its words. -/
def wordKeys : NlsServiceProtocol → WordKeys
  | .wsServiceProtocolDashScope => dashScopeWords
  | .wsServiceProtocolNls => { startTime := "startTime", endTime := "endTime" }

def wordHolder (protocol : NlsServiceProtocol) (root : Json) : Json :=
  match protocol with
  | .wsServiceProtocolDashScope =>
    sentenceOf (root.member (ascii "payload"))
  | .wsServiceProtocolNls => root.member (ascii "payload")

/-- The words of a record are those from before, perhaps with others behind them. -/
def Appended (before words : List WordInfomation) (inner : NlsEventInner) : Prop :=
  inner.sentenceWordsList = before ∨ inner.sentenceWordsList = before ++ words

section

variable {before words : List WordInfomation} {α β : Type}

/-- A part that keeps the outline comes before the words are read, or behind. -/
lemma Keeps.first {m : Parsing α} {f : α → Parsing β} (keeps : Keeps m)
    {Q : β → NlsEventInner → Prop}
    (rest : ∀ a, Ensures (·.sentenceWordsList = before) Q (Appended before words) (f a)) :
    Ensures (·.sentenceWordsList = before) Q (Appended before words) (m >>= f) :=
  ensures_bind ((keeps.ensures fun o => o.sentenceWordsList = before).weaken (fun _ same => same)
    (fun _ _ same => same) fun _ same => Or.inl same) rest

lemma readMember_first {object : Json} {key : String} {asType? : Json → Option α}
    {set : EventFields → α → EventFields} {f : Unit → Parsing β} {Q : β → NlsEventInner → Prop}
    (keeps : ∀ e a, (set e a).outline = e.outline)
    (rest : ∀ a, Ensures (·.sentenceWordsList = before) Q (Appended before words) (f a)) :
    Ensures (·.sentenceWordsList = before) Q (Appended before words)
      (readMember object key asType? set >>= f) :=
  (readMember_keeps object key asType? keeps).first rest

lemma Keeps.behind {m : Parsing α} (keeps : Keeps m) :
    Ensures (Appended before words) (fun _ => Appended before words) (Appended before words) m :=
  keeps.ensures fun o => o.sentenceWordsList = before ∨ o.sentenceWordsList = before ++ words

/-- A part that reads no words. -/
lemma Keeps.wordless {m : Parsing α} (keeps : Keeps m) :
    Ensures (·.sentenceWordsList = before) (fun _ => Appended before words)
      (Appended before words) m :=
  keeps.behind.weaken (fun _ same => Or.inl same) (fun _ _ same => same) fun _ same => same

lemma readWordArray_appended (env : JsonEnv) (keys : WordKeys) (object : Json) :
    Ensures (·.sentenceWordsList = before)
      (fun _ => Appended before (objectWords env keys object))
      (Appended before (objectWords env keys object)) (readWordArray env keys object) := by
  rintro inner rfl
  obtain ⟨done, failed⟩ := readWordArray_ensures env keys object inner.outline inner rfl
  refine ⟨fun a ok => .inr ?_, fun e error => ?_⟩
  · exact congrArg Outline.sentenceWordsList (done a ok)
  · exact (failed e error).imp (congrArg Outline.sentenceWordsList)
      (congrArg Outline.sentenceWordsList)

end

lemma parsePayloadObject_words (env : JsonEnv) (payload : Json) (before : List WordInfomation) :
    Ensures (·.sentenceWordsList = before)
      (fun _ => Appended before (objectWords env (wordKeys .wsServiceProtocolNls) payload))
      (Appended before (objectWords env (wordKeys .wsServiceProtocolNls) payload))
      (parsePayloadObject env payload) := by
  iterate 8
    refine readMember_first (fun _ _ => rfl) fun _ => ?_
  refine ensures_bind (readWordArray_appended env _ payload) fun _ => ?_
  refine ensures_bind (parseWakeWord_keeps payload).behind fun _ => ?_
  exact (parseStashResult_keeps payload).behind

lemma parsePayload_words (env : JsonEnv) (root : Json) (before : List WordInfomation) :
    Ensures (·.sentenceWordsList = before)
      (fun _ => Appended before (objectWords env (wordKeys .wsServiceProtocolNls)
        (wordHolder .wsServiceProtocolNls root)))
      (Appended before (objectWords env (wordKeys .wsServiceProtocolNls)
        (wordHolder .wsServiceProtocolNls root))) (parsePayload env root) := by
  refine Keeps.first keeps_get fun inner => ?_
  refine ensures_ite (fun _ => (keeps_pure ()).wordless) fun _ => ?_
  refine guarded_bind (fun _ _ _ same => Or.inl same) fun payload found => ?_
  obtain rfl := Json.get_eq_ok found
  exact ensures_ite (fun _ => parsePayloadObject_words env _ before)
    fun _ => (keeps_pure ()).wordless

/-! ## The model service -/

lemma parseStSentence_words (env : JsonEnv) (sentence : Json) (before : List WordInfomation) :
    Ensures (·.sentenceWordsList = before)
      (fun _ => Appended before (objectWords env dashScopeWords sentence))
      (Appended before (objectWords env dashScopeWords sentence))
      (parseStSentence env sentence) := by
  iterate 4
    refine Keeps.first (guarded_keeps _) fun _ => ?_
  refine ensures_bind (Q := fun _ inner => inner.sentenceWordsList = before)
    (ensures_modify fun inner same => same) fun _ => ?_
  iterate 4
    refine readMember_first (fun _ _ => rfl) fun _ => ?_
  refine ensures_bind (readWordArray_appended env _ sentence) fun _ => ?_
  exact (keeps_pure ()).behind

lemma parseFssSentence_words (env : JsonEnv) (sentence : Json) (before : List WordInfomation) :
    Ensures (·.sentenceWordsList = before)
      (fun _ => Appended before (objectWords env dashScopeWords sentence))
      (Appended before (objectWords env dashScopeWords sentence))
      (parseFssSentence env sentence) := by
  refine ensures_bind (Q := fun _ inner => inner.sentenceWordsList = before)
    (ensures_modify fun inner same => same) fun _ => ?_
  refine readMember_first (fun _ _ => rfl) fun _ => ?_
  exact readWordArray_appended env _ sentence

lemma parseStOutput_words (env : JsonEnv) (sentence : Json) (before : List WordInfomation) :
    Ensures (·.sentenceWordsList = before)
      (fun _ => Appended before (objectWords env dashScopeWords sentence))
      (Appended before (objectWords env dashScopeWords sentence)) (parseStOutput env sentence) :=
  ensures_ite (fun _ => (keeps_pure ()).wordless) fun _ => parseStSentence_words env _ before

lemma parseFssOutput_words (env : JsonEnv) (sentence : Json) (before : List WordInfomation) :
    Ensures (·.sentenceWordsList = before)
      (fun _ => Appended before (objectWords env dashScopeWords sentence))
      (Appended before (objectWords env dashScopeWords sentence)) (parseFssOutput env sentence) :=
  ensures_ite (fun _ => (keeps_pure false).wordless) fun _ => parseFssSentence_words env _ before

section

variable (env : JsonEnv) (root : Json) (before : List WordInfomation)

lemma parseStResult_words :
    Ensures (·.sentenceWordsList = before)
      (fun _ => Appended before (objectWords env dashScopeWords
        (sentenceOf (root.member (ascii "payload")))))
      (Appended before (objectWords env dashScopeWords
        (sentenceOf (root.member (ascii "payload"))))) (parseStResult env root) := by
  refine guarded_bind (fun _ _ _ same => Or.inl same) fun payload found => ?_
  obtain rfl := Json.get_eq_ok found
  refine ensures_ite (fun _ => ?_) fun _ => (keeps_pure ()).wordless
  refine outputSentence_bind (fun _ _ same => Or.inl same) ?_
  refine ensures_bind (parseStOutput_words env _ before) fun _ => ?_
  refine ensures_bind (usageMember_keeps _ _).behind fun duration => ?_
  exact (setUsage_keeps duration).behind

lemma parseFssRoot_words :
    Ensures (·.sentenceWordsList = before)
      (fun _ => Appended before (objectWords env dashScopeWords
        (sentenceOf (root.member (ascii "payload")))))
      (Appended before (objectWords env dashScopeWords
        (sentenceOf (root.member (ascii "payload"))))) (parseFssRoot env root) := by
  refine guarded_bind (fun _ _ _ same => Or.inl same) fun payload found => ?_
  obtain rfl := Json.get_eq_ok found
  refine ensures_ite (fun _ => ?_) fun _ => (keeps_pure false).wordless
  refine outputSentence_bind (fun _ _ same => Or.inl same) ?_
  refine ensures_bind (parseFssOutput_words env _ before) fun worded => ?_
  refine ensures_bind (usageMember_keeps _ _).behind fun characters => ?_
  refine ensures_bind (setUsage_keeps characters).behind fun _ => ?_
  exact (keeps_pure _).behind

lemma parseFssResult_words :
    Ensures (·.sentenceWordsList = before)
      (fun _ => Appended before (objectWords env dashScopeWords
        (sentenceOf (root.member (ascii "payload")))))
      (Appended before (objectWords env dashScopeWords
        (sentenceOf (root.member (ascii "payload"))))) (parseFssResult env root) := by
  refine Keeps.first keeps_get fun inner => ?_
  refine ensures_bind (parseFssRoot_words env root before) fun said => ?_
  exact ensures_ite (fun _ => (keeps_pure ()).behind) fun _ => (keeps_throw _).behind

end

/-- The text is read for the second time, with the same result. -/
lemma convertResult_words {env : JsonEnv} {started completed : EventType}
    {parse : Json → Parsing Unit} {msg : Bytes} {root : Json} {before words : List WordInfomation}
    (reads : env.parseFromStream msg = some root)
    (parses : Ensures (·.sentenceWordsList = before) (fun _ => Appended before words)
      (Appended before words) (parse root)) :
    Ensures (fun inner : NlsEventInner => inner.sentenceWordsList = before ∧ inner.msg = msg)
      (fun _ => Appended before words) (Appended before words)
      (convertResult env started completed parse) := by
  refine ensures_get_bind fun inner ⟨same, text⟩ => ?_
  subst text
  rw [reads]
  have renames (type : EventType) : Ensures (· = inner) (fun _ => Appended before words)
      (Appended before words) (update fun e => { e with msgType := type }) :=
    ensures_modify fun _ is => .inl (is ▸ same)
  refine ensures_ite (fun _ => ensures_throw fun _ is => .inl (is ▸ same)) fun _ => ?_
  refine ensures_ite (fun _ => renames started) fun _ => ?_
  refine ensures_ite (fun _ => renames completed) fun _ => ?_
  exact parses.weaken (fun _ is => is ▸ same) (fun _ _ same => same) fun _ same => same

/-- What the header leaves of a record. -/
structure HeaderOnly (this inner : NlsEventInner) : Prop where
  sentenceWordsList : inner.sentenceWordsList = this.sentenceWordsList
  serviceProtocol : inner.serviceProtocol = this.serviceProtocol
  msg : inner.msg = this.msg

section

variable {this : NlsEventInner} {α : Type}

lemma Keeps.headerOnly {m : Parsing α} (keeps : Keeps m) :
    Checked (HeaderOnly this) (fun _ => True) m := by
  intro inner header
  have same := (keeps inner.outline inner rfl).1
  refine ⟨⟨?_, ?_, ?_⟩, fun _ _ => trivial⟩
  · exact (congrArg Outline.sentenceWordsList same).trans header.sentenceWordsList
  · exact (congrArg Outline.serviceProtocol same).trans header.serviceProtocol
  · exact (congrArg Outline.msg same).trans header.msg

lemma setType_headerOnly (type : EventType) :
    Checked (HeaderOnly this) (fun _ => True) (update fun e => { e with msgType := type }) :=
  checked_modify fun _ header => ⟨header.sentenceWordsList, header.serviceProtocol, header.msg⟩

lemma parseMsgType_headerOnly (name : Bytes) :
    Checked (HeaderOnly this) (fun _ => True) (parseMsgType name) := by
  unfold parseMsgType
  split
  · exact setType_headerOnly _
  · exact checked_throw trivial

lemma parseName_headerOnly (ignore : Bool) (head : Json) :
    Checked (HeaderOnly this) (fun _ => True) (parseName ignore head) := by
  refine checked_bind (guarded_keeps _).headerOnly fun name => ?_
  refine checked_bind (guarded_keeps _).headerOnly fun event => ?_
  refine checked_bind checked_get fun inner => ?_
  refine checked_ite ?_ (checked_pure ())
  refine checked_bind (guarded_keeps _).headerOnly fun text => ?_
  refine checked_ite ?_ (parseMsgType_headerOnly text)
  exact checked_tryCatch (parseMsgType_headerOnly text) fun _ => checked_pure ()

lemma parseHeaderless_headerOnly (ignore : Bool) (root : Json) :
    Checked (HeaderOnly this) (fun _ => True) (parseHeaderless ignore root) := by
  refine checked_bind (guarded_keeps _).headerOnly fun closed => ?_
  refine checked_bind (guarded_keeps _).headerOnly fun failed => ?_
  refine checked_ite (setType_headerOnly _) ?_
  refine checked_ite (setType_headerOnly _) ?_
  exact checked_ite (checked_pure ()) (checked_throw trivial)

lemma parseHead_headerOnly (ignore : Bool) (root : Json) :
    Checked (HeaderOnly this) (fun _ => True) (parseHead ignore root) := by
  refine checked_bind (guarded_keeps _).headerOnly fun head => ?_
  refine checked_ite ?_ (parseHeaderless_headerOnly ignore root)
  refine checked_bind (parseName_headerOnly ignore head) fun _ => ?_
  refine checked_bind (parseStatus_keeps ignore head).headerOnly fun _ => ?_
  have keeps : Keeps (readMember head "task_id" Json.cString? fun e taskId => { e with taskId }) :=
    readMember_keeps _ _ _ fun _ _ => rfl
  exact keeps.headerOnly

end

lemma convertResultGenerated_words {env : JsonEnv} {root : Json} {msg : Bytes}
    (reads : env.parseFromStream msg = some root) (nlsType : NlsType)
    (before : List WordInfomation) :
    Ensures (fun inner : NlsEventInner => inner.sentenceWordsList = before ∧ inner.msg = msg)
      (fun _ => Appended before (objectWords env dashScopeWords
        (sentenceOf (root.member (ascii "payload")))))
      (Appended before (objectWords env dashScopeWords
        (sentenceOf (root.member (ascii "payload"))))) (convertResultGenerated env nlsType) := by
  cases nlsType
  case typeDashScopeFunAsrRealTime =>
    exact convertResult_words reads (parseStResult_words env root before)
  case typeDashScopeParaformerRealTime =>
    exact convertResult_words reads (parseStResult_words env root before)
  case typeDashSceopCosyVoiceStreamInputTts =>
    exact convertResult_words reads (parseFssResult_words env root before)
  all_goals exact ensures_pure fun _ same => Or.inl same.1

/-- The words that a message adds to a record are those of the one array, or none. -/
theorem parseJsonMsg_words {env : JsonEnv} {this : NlsEventInner} {root : Json}
    (reads : env.parseFromStream this.msg = some root) (ignore : Bool) :
    Appended this.sentenceWordsList (objectWords env (wordKeys this.serviceProtocol)
      (wordHolder this.serviceProtocol root)) (parseJsonMsg env ignore this).2 := by
  have body : Ensures (HeaderOnly this)
      (fun _ => Appended this.sentenceWordsList (objectWords env (wordKeys this.serviceProtocol)
        (wordHolder this.serviceProtocol root)))
      (Appended this.sentenceWordsList (objectWords env (wordKeys this.serviceProtocol)
        (wordHolder this.serviceProtocol root))) (parseBody env root) := by
    refine ensures_get_bind fun inner header => ?_
    refine ensures_ite (fun dashScope => ?_) fun other => ?_
    · rw [← header.serviceProtocol, dashScope]
      exact (convertResultGenerated_words reads inner.nlsType _).weaken
        (fun _ is => is ▸ ⟨header.sentenceWordsList, header.msg⟩) (fun _ _ same => same)
        fun _ same => same
    · have nls : inner.serviceProtocol = .wsServiceProtocolNls := by
        cases protocol : inner.serviceProtocol with
        | wsServiceProtocolNls => rfl
        | wsServiceProtocolDashScope => exact absurd protocol other
      rw [← header.serviceProtocol, nls]
      exact (parsePayload_words env root _).weaken
        (fun _ is => is ▸ header.sentenceWordsList) (fun _ _ same => same) fun _ same => same
  have whole : Ensures (· = this)
      (fun _ => Appended this.sentenceWordsList (objectWords env (wordKeys this.serviceProtocol)
        (wordHolder this.serviceProtocol root)))
      (Appended this.sentenceWordsList (objectWords env (wordKeys this.serviceProtocol)
        (wordHolder this.serviceProtocol root))) (parseMsg env ignore) := by
    refine ensures_get_bind fun inner is => ?_
    subst is
    refine ensures_ite (fun _ => ensures_throw fun _ is => .inl (is ▸ rfl)) fun _ => ?_
    rw [reads]
    refine ensures_bind ((parseHead_headerOnly ignore root).ensures.weaken (fun _ is => ?_)
      (fun _ _ header => header) fun _ header => .inl header.sentenceWordsList) fun _ => body
    exact is ▸ ⟨rfl, rfl, rfl⟩
  obtain ⟨done, failed⟩ := whole this rfl
  rw [parseJsonMsg]
  cases result : ((parseMsg env ignore).runFrom this).1 with
  | ok a => exact done a result
  | error e => exact failed e result

/-! ## Locality -/

/-- The words that parsing a message adds to the record. -/
def parsedWords (env : JsonEnv) (ignore : Bool) (this : NlsEventInner) : List WordInfomation :=
  (parseJsonMsg env ignore this).2.sentenceWordsList.drop this.sentenceWordsList.length

/-- The array of a message. -/
def wordArray (protocol : NlsServiceProtocol) (root : Json) : List Json :=
  ((wordHolder protocol root).member (ascii "words")).array?.getD []

/-- Each word is what its own element is read into, where missing fields have their default. -/
def Local (keys : WordKeys) (default : WordInfomation) (words : List Json)
    (parsed : List WordInfomation) : Prop :=
  ∀ (k : ℕ) (word : WordInfomation), parsed[k]? = some word →
    ∃ element, words[k]? = some element ∧ readWord keys element default = .ok word

/-- A field that an element lacks has its default, as the latest of the elements in front of it that
have it tell. -/
def Unmixed {α : Type} (given : Json → Option α) (first default : α) (words : List Json) : Prop :=
  ∀ earlier element later, words.takeWhile isReadable = earlier ++ element :: later →
    given element = none → latest given first earlier = default

variable {keys : WordKeys} {default : WordInfomation}

lemma local_nil (words : List Json) : Local keys default words [] := by
  intro k word there
  cases there

lemma local_cons {element : Json} {words : List Json} {word : WordInfomation}
    {parsed : List WordInfomation} :
    Local keys default (element :: words) (word :: parsed) ↔
      readWord keys element default = .ok word ∧ Local keys default words parsed := by
  constructor
  · intro all
    constructor
    · obtain ⟨first, there, reads⟩ := all 0 word rfl
      rwa [← Option.some.inj there] at reads
    · intro k word' there
      exact all (k + 1) word' there
  · rintro ⟨here, later⟩ k word' there
    cases k with
    | zero => exact ⟨element, rfl, Option.some.inj there ▸ here⟩
    | succ k => exact later k word' there

/-- The words of the loop are local exactly when each is read as if it were alone. -/
lemma local_iff_map (first : WordInfomation) (words : List Json) :
    Local keys default words (wordsFrom keys first words) ↔
      wordsFrom keys first words = (words.takeWhile isReadable).map (wordOf keys default) := by
  induction words generalizing first with
  | nil => exact iff_of_true (local_nil _) rfl
  | cons element words ih =>
    rw [wordsFrom]
    by_cases readable : isReadable element
    · rw [if_pos readable, local_cons, ih, readWord_eq, if_pos readable, List.takeWhile_cons,
        if_pos readable, List.map_cons, List.cons.injEq, Except.ok.injEq]
      exact and_congr_left fun _ => eq_comm
    · rw [if_neg readable, List.takeWhile_cons, if_neg readable]
      exact iff_of_true (local_nil _) rfl

/-- Each field of the words is carried along the array. -/
lemma wordsFrom_fields (first : WordInfomation) (words : List Json) :
    (wordsFrom keys first words).map WordInfomation.text =
        carry (wordField Json.cString? "text") first.text (words.takeWhile isReadable) ∧
      (wordsFrom keys first words).map WordInfomation.startTime =
        carry (wordField Json.int? keys.startTime) first.startTime (words.takeWhile isReadable) ∧
      (wordsFrom keys first words).map WordInfomation.endTime =
        carry (wordField Json.int? keys.endTime) first.endTime (words.takeWhile isReadable) := by
  induction words generalizing first with
  | nil => exact ⟨rfl, rfl, rfl⟩
  | cons element words ih =>
    rw [wordsFrom, List.takeWhile_cons]
    split
    · obtain ⟨text, startTime, endTime⟩ := ih (wordOf keys first element)
      rw [List.map_cons, List.map_cons, List.map_cons, text, startTime, endTime]
      exact ⟨rfl, rfl, rfl⟩
    · exact ⟨rfl, rfl, rfl⟩

lemma words_ext {as bs : List WordInfomation}
    (text : as.map WordInfomation.text = bs.map WordInfomation.text)
    (startTime : as.map WordInfomation.startTime = bs.map WordInfomation.startTime)
    (endTime : as.map WordInfomation.endTime = bs.map WordInfomation.endTime) : as = bs := by
  induction as generalizing bs with
  | nil => exact (List.map_eq_nil_iff.mp text.symm).symm
  | cons a as ih =>
    cases bs with
    | nil => cases text
    | cons b bs =>
      obtain ⟨text, texts⟩ := List.cons.inj text
      obtain ⟨startTime, startTimes⟩ := List.cons.inj startTime
      obtain ⟨endTime, endTimes⟩ := List.cons.inj endTime
      have here : a = b := by
        cases a
        cases b
        simp_all
      rw [here, ih texts startTimes endTimes]

/-- The elements of an array do not mix when each of the three fields does not. -/
structure UnmixedWords (keys : WordKeys) (first default : WordInfomation) (words : List Json) :
    Prop where
  text : Unmixed (wordField Json.cString? "text") first.text default.text words
  startTime : Unmixed (wordField Json.int? keys.startTime) first.startTime default.startTime words
  endTime : Unmixed (wordField Json.int? keys.endTime) first.endTime default.endTime words

theorem wordsFrom_local_iff (first : WordInfomation) (words : List Json) :
    Local keys default words (wordsFrom keys first words) ↔
      UnmixedWords keys first default words := by
  obtain ⟨text, startTime, endTime⟩ := @wordsFrom_fields keys first words
  rw [local_iff_map]
  constructor
  · intro alone
    rw [alone, List.map_map] at text startTime endTime
    exact ⟨(carry_eq_map_iff ..).mp text.symm, (carry_eq_map_iff ..).mp startTime.symm,
      (carry_eq_map_iff ..).mp endTime.symm⟩
  · rintro ⟨texts, startTimes, endTimes⟩
    refine words_ext ?_ ?_ ?_
    · rw [text, (carry_eq_map_iff ..).mpr texts, List.map_map]
      rfl
    · rw [startTime, (carry_eq_map_iff ..).mpr startTimes, List.map_map]
      rfl
    · rw [endTime, (carry_eq_map_iff ..).mpr endTimes, List.map_map]
      rfl

/-- What the fields of a word hold before the first element. -/
def undeclared (env : JsonEnv) : WordInfomation where
  text := []
  startTime := env.startTime
  endTime := env.endTime

/-- For every message, the words that are parsed are those of their own elements exactly when none
is parsed or the elements do not mix. -/
theorem parsedWords_local_iff {env : JsonEnv} {this : NlsEventInner} {root : Json}
    (default : WordInfomation) (reads : env.parseFromStream this.msg = some root)
    (ignore : Bool) :
    Local (wordKeys this.serviceProtocol) default (wordArray this.serviceProtocol root)
        (parsedWords env ignore this) ↔
      parsedWords env ignore this = [] ∨
        UnmixedWords (wordKeys this.serviceProtocol) (undeclared env) default
          (wordArray this.serviceProtocol root) := by
  have some_ (words : parsedWords env ignore this = wordsFrom (wordKeys this.serviceProtocol)
      (undeclared env) (wordArray this.serviceProtocol root)) :
      Local (wordKeys this.serviceProtocol) default (wordArray this.serviceProtocol root)
          (parsedWords env ignore this) ↔
        UnmixedWords (wordKeys this.serviceProtocol) (undeclared env) default
          (wordArray this.serviceProtocol root) :=
    words ▸ wordsFrom_local_iff _ _
  obtain none_ | words := parseJsonMsg_words reads ignore
  · have nothing : parsedWords env ignore this = [] := by
      rw [parsedWords, none_, List.drop_length]
    exact iff_of_true (nothing ▸ local_nil _) (.inl nothing)
  · have all : parsedWords env ignore this = wordsFrom (wordKeys this.serviceProtocol)
        (undeclared env) (wordArray this.serviceProtocol root) := by
      rw [parsedWords, words, List.drop_left]
      rfl
    rw [some_ all]
    refine ⟨.inr, fun either => either.elim (fun nothing => ?_) id⟩
    rw [← wordsFrom_local_iff, ← all, nothing]
    exact local_nil _

/-- A message with two words, the second without a text. -/
def twoWordsText : Bytes :=
  ascii "\x7b\"header\":\x7b\"name\":\"SentenceEnd\",\"status\":20000000\x7d," ++
    ascii "\"payload\":\x7b\"words\":[\x7b\"text\":\"a\",\"startTime\":1,\"endTime\":2\x7d," ++
    ascii "\x7b\"startTime\":3,\"endTime\":4\x7d]\x7d\x7d"

def twoWordsRoot : Json :=
  .object [
    (ascii "header", .object [
      (ascii "name", .string (ascii "SentenceEnd")), (ascii "status", .int 20000000)]),
    (ascii "payload", .object [(ascii "words", .array [
      .object [(ascii "endTime", .int 2), (ascii "startTime", .int 1),
        (ascii "text", .string (ascii "a"))],
      .object [(ascii "endTime", .int 4), (ascii "startTime", .int 3)]])])]

/-- A reader that knows this text. -/
def twoWordsReader : JsonEnv where
  parseFromStream text := if text = twoWordsText then some twoWordsRoot else none

def twoWordsInner : NlsEventInner := .ofMsg twoWordsText .typeRealTime .wsServiceProtocolNls

lemma twoWords_read :
    twoWordsReader.parseFromStream twoWordsInner.msg = some twoWordsRoot := by
  change (if twoWordsText = twoWordsText then some twoWordsRoot else none) = some twoWordsRoot
  rw [if_pos rfl]

theorem parsedWords_local_iff_twoWords :
    Local (wordKeys .wsServiceProtocolNls) ⟨[], 0, 0⟩
        (wordArray .wsServiceProtocolNls twoWordsRoot)
        (parsedWords twoWordsReader false twoWordsInner) ↔
      parsedWords twoWordsReader false twoWordsInner = [] ∨
        UnmixedWords (wordKeys .wsServiceProtocolNls) (undeclared twoWordsReader) ⟨[], 0, 0⟩
          (wordArray .wsServiceProtocolNls twoWordsRoot) :=
  parsedWords_local_iff ⟨[], 0, 0⟩ twoWords_read false

/-- The second word has the text of the first. -/
theorem text_carried :
    ¬Local (wordKeys .wsServiceProtocolNls) ⟨[], 0, 0⟩
      (wordArray .wsServiceProtocolNls twoWordsRoot)
      (parsedWords twoWordsReader false twoWordsInner) := by
  intro all
  obtain ⟨element, there, reads⟩ := all 1 ⟨ascii "a", 3, 4⟩ (by decide +kernel)
  obtain rfl := Option.some.inj there
  have alone : readWord (wordKeys .wsServiceProtocolNls)
      (.object [(ascii "endTime", .int 4), (ascii "startTime", .int 3)]) ⟨[], 0, 0⟩ =
        .ok ⟨[], 3, 4⟩ := by rfl
  have same := Except.ok.inj (alone.symm.trans reads)
  exact absurd (congrArg WordInfomation.text same) (by decide)

end NlsEventInner

end NlsSdk.Framework

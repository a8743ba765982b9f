import NlsSdk.Library.Run
import NlsSdk.Transport.Global

/-!
# The log

`nlog.cpp` hands a message to log4cpp as a format. `LOG_WASH` doubles its percent signs, so that
none of them is a conversion. `formats_print` says what is printed in every run of the log.
-/
namespace NlsSdk.Utils

open Library Transport

/-! ## Formats -/

/-- What a format without arguments prints, `none` where it has a conversion. -/
def printed : Bytes → Option Bytes
  | [] => some []
  | 37 :: 37 :: rest => (printed rest).map (37 :: ·)
  | b :: rest => if b = 37 then none else (printed rest).map (b :: ·)

/-- The pieces between percent signs; `piece` has been read of the one at hand. No piece stands
behind the last sign of a text that ends with it. -/
def washPieces (piece : Bytes) : Bytes → List Bytes
  | [] => if piece = [] then [] else [piece]
  | b :: rest => if b = 37 then piece :: washPieces [] rest else washPieces (piece ++ [b]) rest

/-- `LOG_WASH` -/
def logWash (message : Bytes) : Bytes := [37, 37].intercalate (washPieces [] message)

def logBufferSize : ℕ := 2048

def logBufferPlusSize : ℕ := 2560

/-- `LOG_FORMAT_STRING`; `head` is the thread, the function and the line, and `text` what the
message comes to. -/
def logFormatString (head text : Bytes) : Bytes :=
  (head ++ text.take (logBufferSize - 2)).take (logBufferSize - 1)

/-! ## The log object -/

inductive LogLevel
  | verbose | debug | info | warn | error | exception
  deriving DecidableEq, Repr

/-- The least level of the configuration at which a message is logged. -/
def LogLevel.least : LogLevel → Option ℤ
  | .verbose => none
  | .debug => some 4
  | .info => some 3
  | .warn => some 2
  | .error => some 1
  | .exception => none

/-- Where a message goes. -/
inductive LogOutput
  /-- to log4cpp, as a format -/
  | category (level : LogLevel) (format : Bytes)
  | standard (level : LogLevel) (message : Bytes)
  /-- to the method the user has set -/
  | callback (method : ℕ) (level : LogLevel) (message : Bytes)

structure NlsLog where
  callback : Option ℕ := none
  logLevel : ℤ := 1
  isStdout : Bool := true
  isConfig : Bool := false

namespace NlsLog

def logConfig (log : NlsLog) (name : Option Bytes) (level : ℤ) (fileSize : ℕ)
    (callback : Option ℕ) : NlsLog :=
  let log := { log with callback := callback }
  if log.isConfig then log
  else { log with
    isStdout := !(name.isSome && 0 < fileSize)
    logLevel := level
    isConfig := true }

/-- `logVerbose` and its like. -/
def logMessage (log : NlsLog) (level : LogLevel) (head text : Bytes) : List LogOutput :=
  if !log.isConfig ∨ level.least.any (log.logLevel < ·) then []
  else
    let message := logWash (logFormatString head text)
    let shown := if log.isStdout then .standard level message else .category level message
    shown :: (log.callback.map fun method => .callback method level
      ((ascii "[AliSpeechLib] " ++ message).take (logBufferPlusSize - 1))).toList

end NlsLog

/-- The log, and what has come out of it. -/
structure Logged where
  log : NlsLog := {}
  outputs : List LogOutput := []

inductive LogOp
  | logConfig (name : Option Bytes) (level : ℤ) (fileSize : ℕ) (callback : Option ℕ)
  | logMessage (level : LogLevel) (head text : Bytes)
  | destroyLogInstance

def Logged.step (s : Logged) : LogOp → Logged
  | .logConfig name level fileSize callback =>
    { s with log := s.log.logConfig name level fileSize callback }
  | .logMessage level head text =>
    { s with outputs := s.outputs ++ s.log.logMessage level head text }
  | .destroyLogInstance => { s with log := {} }

/-! ## What a washed message prints -/

/-- A text without the percent sign it ends with. -/
def withoutLastPercent (text : Bytes) : Bytes :=
  if text.getLast? = some 37 then text.dropLast else text

lemma printed_cons {b : UInt8} (plain : b ≠ 37) (rest : Bytes) :
    printed (b :: rest) = (printed rest).map (b :: ·) := by
  rw [printed, if_neg plain]
  rintro rest rfl
  exact absurd rfl plain

lemma printed_append {piece : Bytes} (plain : 37 ∉ piece) (rest : Bytes) :
    printed (piece ++ rest) = (printed rest).map (piece ++ ·) := by
  induction piece with
  | nil => simp
  | cons b piece ih =>
    rw [List.mem_cons, not_or] at plain
    rw [List.cons_append, printed_cons (fun is => plain.1 is.symm), ih plain.2, Option.map_map]
    rfl

lemma printed_plain {piece : Bytes} (plain : 37 ∉ piece) : printed piece = some piece := by
  have alone := printed_append plain []
  rw [List.append_nil] at alone
  rw [alone]
  simp [printed]

lemma withoutLastPercent_plain {text : Bytes} (plain : 37 ∉ text) :
    withoutLastPercent text = text := by
  unfold withoutLastPercent
  rw [if_neg fun last => plain (List.mem_of_getLast? last)]

lemma withoutLastPercent_append (front : Bytes) {text : Bytes} (some : text ≠ []) :
    withoutLastPercent (front ++ text) = front ++ withoutLastPercent text := by
  unfold withoutLastPercent
  rw [List.getLast?_append_of_ne_nil _ some, List.dropLast_append_of_ne_nil some]
  split
  · rfl
  · rfl

lemma washPieces_nonempty {message : Bytes} (some : message ≠ []) (piece : Bytes) :
    washPieces piece message ≠ [] := by
  induction message generalizing piece with
  | nil => exact absurd rfl some
  | cons b rest ih =>
    unfold washPieces
    split
    · exact List.cons_ne_nil _ _
    cases rest with
    | nil => simp [washPieces]
    | cons c rest => exact ih (List.cons_ne_nil c rest) _

lemma intercalate_washPieces {piece : Bytes} (plain : 37 ∉ piece) (message : Bytes) :
    printed ([37, 37].intercalate (washPieces piece message)) =
      some (withoutLastPercent (piece ++ message)) := by
  induction message generalizing piece with
  | nil =>
    rw [List.append_nil, withoutLastPercent_plain plain]
    unfold washPieces
    split
    · rename_i none
      rw [none]
      rfl
    · rw [List.intercalate_singleton, printed_plain plain]
  | cons b rest ih =>
    unfold washPieces
    split
    · rename_i percent
      subst percent
      cases rest with
      | nil =>
        rw [washPieces, if_pos rfl, List.intercalate_singleton, printed_plain plain,
          withoutLastPercent_append piece (List.cons_ne_nil 37 [])]
        simp [withoutLastPercent]
      | cons c rest =>
        have pieces := washPieces_nonempty (List.cons_ne_nil c rest) []
        obtain ⟨next, others, is⟩ := List.exists_cons_of_ne_nil pieces
        have later := @ih [] (by simp)
        rw [is, List.nil_append] at later
        rw [is, List.intercalate_cons_cons, List.append_assoc, printed_append plain,
          List.cons_append, List.cons_append, List.nil_append, printed, later,
          withoutLastPercent_append piece (List.cons_ne_nil 37 _)]
        have behind := withoutLastPercent_append [37] (List.cons_ne_nil c rest)
        rw [List.singleton_append] at behind
        rw [behind]
        rfl
    · rename_i other
      rw [ih (by simp [plain, Ne.symm other]), List.append_assoc]
      rfl

/-- A washed message is a format that prints the message, less a percent sign at its end. -/
theorem logWash_printed (message : Bytes) :
    printed (logWash message) = some (withoutLastPercent message) :=
  intercalate_washPieces (by simp) message

/-! ## Runs of the log -/

/-- What log4cpp is given to print. -/
def LogOutput.format? : LogOutput → Option Bytes
  | .category _ format => some format
  | .standard _ _ => none
  | .callback _ _ _ => none

/-- What log4cpp is asked to print: `first` is the level of the first configuration, and whether it
names a file. -/
def fileLines : Option (ℤ × Bool) → List LogOp → List Bytes
  | _, [] => []
  | first, .logConfig name level fileSize _ :: ops =>
    fileLines (some (first.getD (level, name.isSome && 0 < fileSize))) ops
  | first, .logMessage level head text :: ops =>
    (if first.any fun f => f.2 && level.least.all (· ≤ f.1) then
      [withoutLastPercent (logFormatString head text)] else []) ++ fileLines first ops
  | _, .destroyLogInstance :: ops => fileLines none ops

/-- The configuration a log works with. -/
def NlsLog.first (log : NlsLog) : Option (ℤ × Bool) :=
  if log.isConfig then some (log.logLevel, !log.isStdout) else none

lemma logConfig_first (log : NlsLog) (name : Option Bytes) (level : ℤ) (fileSize : ℕ)
    (callback : Option ℕ) : (log.logConfig name level fileSize callback).first =
      some (log.first.getD (level, name.isSome && 0 < fileSize)) := by
  unfold NlsLog.logConfig NlsLog.first
  cases configured : log.isConfig with
  | true => simp
  | false => simp

lemma logMessage_printed (log : NlsLog) (level : LogLevel) (head text : Bytes) :
    ((log.logMessage level head text).filterMap LogOutput.format?).map printed =
      (if log.first.any fun f => f.2 && level.least.all (· ≤ f.1) then
        [withoutLastPercent (logFormatString head text)] else []).map some := by
  have unshown (method : Option ℕ) (message : Bytes) :
      ((method.map fun m => LogOutput.callback m level message).toList).filterMap
        LogOutput.format? = [] := by
    cases method with
    | none => rfl
    | some m => rfl
  have least : level.least.all (· ≤ log.logLevel) = !level.least.any (log.logLevel < ·) := by
    cases level.least with
    | none => rfl
    | some least =>
      rw [Option.all_some, Option.any_some, ← decide_not]
      simp only [not_lt]
  unfold NlsLog.logMessage NlsLog.first
  cases log.isConfig with
  | false =>
    simp only [Bool.not_false, true_or, if_true, Bool.false_eq_true, if_false, Option.any_none]
    rfl
  | true =>
    rw [if_pos rfl, Option.any_some, least]
    cases quiet : level.least.any (log.logLevel < ·) with
    | true =>
      rw [if_pos (.inr rfl)]
      simp
    | false =>
      rw [if_neg (by simp)]
      dsimp only
      cases log.isStdout with
      | true =>
        rw [if_pos rfl, List.filterMap_cons]
        dsimp only [LogOutput.format?]
        rw [unshown]
        rfl
      | false =>
        rw [if_neg (by simp), List.filterMap_cons]
        dsimp only [LogOutput.format?]
        rw [unshown, List.map_singleton, logWash_printed]
        rfl

/-- In every run the formats given to log4cpp print the messages logged to the file, in order:
each one once, without a percent sign at its end and with no other change. -/
theorem formats_print (ops : List LogOp) :
    ((run Logged.step {} ops).outputs.filterMap LogOutput.format?).map printed =
      (fileLines none ops).map some := by
  have general : ∀ (ops : List LogOp) (s : Logged),
      ((run Logged.step s ops).outputs.filterMap LogOutput.format?).map printed =
        (s.outputs.filterMap LogOutput.format?).map printed ++
          (fileLines s.log.first ops).map some := by
    intro ops
    induction ops with
    | nil => intro s; simp [fileLines]
    | cons op ops ih =>
      intro s
      rw [run_cons, ih]
      cases op with
      | logConfig name level fileSize callback =>
        rw [fileLines, ← logConfig_first s.log name level fileSize callback]
        rfl
      | logMessage level head text =>
        rw [fileLines, List.map_append, ← logMessage_printed, ← List.append_assoc,
          ← List.map_append, ← List.filterMap_append]
        rfl
      | destroyLogInstance => rfl
  exact general ops {}

end NlsSdk.Utils

import ViperChain.Assumptions
import ViperChain.Library.HashChain
import ViperChain.Library.PrefixCode
import ViperChain.Library.Runs
import ViperChain.Node.AuditDate

/-!
The audit log: one file a day, each line with the hash of its payload and that of the line
before. A line whose write fails is not in the file.
-/

namespace ViperChain.Audit

open TextDigits

section Model

structure AuditTools (Value : Type) where
  number : Nat → Value
  string : String → Value
  toVec : Std.ExtTreeMap String Value → Option Bytes
  sha256 : Bytes → Bytes32

variable {Value : Type}

structure AuditState where
  baseDir : String
  /-- The date of the file, empty before the first event. -/
  currentDate : String
  lastHash : String
deriving DecidableEq

structure Call (Value : Type) where
  unixSecs : Nat
  unixNanos : Nat
  fields : Std.ExtTreeMap String Value
  level : String
  target : String
  locked : Bool
  createDirAll : Bool
  openAppend : Bool
  writeLine : Bool

structure AuditLog where
  state : Option AuditState
  files : Std.ExtTreeMap String (List Bytes)

def AuditState.new (baseDir : String) : AuditState := ⟨baseDir, "", ""⟩

def auditPath (baseDir date : String) : String := baseDir ++ "/audit-" ++ date ++ ".jsonl"

def AuditState.currentPath (state : AuditState) : String := auditPath state.baseDir state.currentDate

def AuditState.rotate (state : AuditState) (today : String) : AuditState :=
  if today ≠ state.currentDate then { state with currentDate := today, lastHash := "" } else state

def reservedFields : List String := ["unix_secs", "unix_nanos", "level", "target", "prev_hash", "hash"]

def addField (payload : Std.ExtTreeMap String Value) (field : String × Value) :
    Std.ExtTreeMap String Value :=
  if field.1 ∈ reservedFields then payload else payload.insert field.1 field.2

variable (tools : AuditTools Value)

def payload (lastHash : String) (call : Call Value) : Std.ExtTreeMap String Value :=
  let own := ((((∅ : Std.ExtTreeMap String Value).insert "unix_secs" (tools.number call.unixSecs)).insert
    "unix_nanos" (tools.number call.unixNanos)).insert "level" (tools.string call.level)).insert
      "target" (tools.string call.target)
  (call.fields.toList.foldl addField own).insert "prev_hash" (tools.string lastHash)

def hashHex (canon : Bytes) : String := hexEncode (tools.sha256 canon).data

def sealLine (payload : Std.ExtTreeMap String Value) : Option (String × Bytes) := do
  let canon ← tools.toVec payload
  let line ← tools.toVec (payload.insert "hash" (tools.string (hashHex tools canon)))
  return (hashHex tools canon, line)

/-- A `none` is a panic of the date. -/
def writeEvent (baseDir : String) (log : AuditLog) (call : Call Value) : Option AuditLog :=
  if call.locked = false then some log
  else do
    let state := log.state.getD (.new baseDir)
    let today ← ymd call.unixSecs
    let rotated := state.rotate today
    let kept : AuditLog := { log with state := some rotated }
    if today ≠ state.currentDate ∧ call.createDirAll = false then return kept
    match sealLine tools (payload tools rotated.lastHash call) with
    | none => return kept
    | some (hash, line) =>
        if call.openAppend = false ∨ call.writeLine = false then return kept
        let path := rotated.currentPath
        return {
          state := some { rotated with lastHash := hash }
          files := log.files.insert path ((log.files[path]?).getD [] ++ [line]) }

def writeEvents (baseDir : String) (calls : List (Call Value)) : Option AuditLog :=
  calls.foldlM (writeEvent tools baseDir) ⟨none, ∅⟩

def AuditLog.linesOf (log : AuditLog) (baseDir date : String) : List Bytes :=
  (log.files[auditPath baseDir date]?).getD []

end Model

section Check

variable {Value : Type} (tools : AuditTools Value)

structure AuditTools.Faithful : Prop where
  printed : ∀ map, ∃ text, tools.toVec map = some text
  distinct : ∀ left right text, tools.toVec left = some text → tools.toVec right = some text →
    left = right
  string_injective : Function.Injective tools.string

abbrev Line (Value : Type) : Type := Std.ExtTreeMap String Value

def link (entry : Line Value) : Option Value := entry["prev_hash"]?

def digest (entry : Line Value) : Option Value :=
  (tools.toVec (entry.erase "hash")).map fun canon => tools.string (hashHex tools canon)

def chainStart : Option Value := some (tools.string "")

structure Passes (lines : List (Line Value)) : Prop where
  recorded : ∀ entry ∈ lines, entry["hash"]? = digest tools entry
  linked : HashChain.Linked link (digest tools) (chainStart tools) lines

def lastHash (lines : List (Line Value)) : Option Value :=
  HashChain.tip (digest tools) (chainStart tools) lines

def Prints (lines : List (Line Value)) (texts : List Bytes) : Prop :=
  List.Forall₂ (fun entry text => tools.toVec entry = some text) lines texts

def HashedIn (seen : Set Bytes) (lines : List (Line Value)) : Prop :=
  ∀ entry ∈ lines, ∀ canon, tools.toVec (entry.erase "hash") = some canon → canon ∈ seen

def TamperEvident (seen : Set Bytes) (texts : List Bytes) : Prop :=
  ∀ lines, Prints tools lines texts → ∀ otherLines others, Prints tools otherLines others →
    HashedIn tools seen otherLines → Passes tools otherLines →
      lastHash tools otherLines = lastHash tools lines → others = texts

variable {tools} {seen : Set Bytes} {entrys otherLines : List (Line Value)}

theorem hashHex_ne_empty (canon : Bytes) : hashHex tools canon ≠ "" := by
  intro empty
  have chars : hexChars (tools.sha256 canon).data = [] := String.ofList_injective empty
  have length := (tools.sha256 canon).length_eq
  cases bytes : (tools.sha256 canon).data with
  | nil => rw [bytes] at length; cases length
  | cons byte rest => rw [bytes, hexChars] at chars; cases chars

theorem digest_ne_chainStart (faithful : tools.Faithful) (entry : Line Value) :
    digest tools entry ≠ chainStart tools := by
  obtain ⟨canon, printed⟩ := faithful.printed (entry.erase "hash")
  rw [digest, printed, chainStart, Option.map_some]
  intro same
  exact hashHex_ne_empty canon (faithful.string_injective (Option.some.inj same))

theorem hexEncode_injective : Function.Injective hexEncode := by
  intro left right same
  have read := congrArg hexDecode same
  rw [hexDecode_hexEncode, hexDecode_hexEncode] at read
  exact Option.some.inj read

theorem digest_injOn (faithful : tools.Faithful) (collisionFree : Set.InjOn tools.sha256 seen) :
    Set.InjOn (digest tools) {entry : Line Value | entry["hash"]? = digest tools entry ∧
      ∀ canon, tools.toVec (entry.erase "hash") = some canon → canon ∈ seen} := by
  rintro left ⟨leftHash, leftSeen⟩ right ⟨rightHash, rightSeen⟩ same
  have recorded : left["hash"]? = right["hash"]? := by rw [leftHash, rightHash, same]
  obtain ⟨leftCanon, leftPrinted⟩ := faithful.printed (left.erase "hash")
  obtain ⟨rightCanon, rightPrinted⟩ := faithful.printed (right.erase "hash")
  rw [digest, digest, leftPrinted, rightPrinted, Option.map_some, Option.map_some, Option.some_inj] at same
  have hashes := hexEncode_injective (faithful.string_injective same)
  obtain rfl := collisionFree (leftSeen _ leftPrinted) (rightSeen _ rightPrinted)
    (Bytes32.data_injective hashes)
  have payloads := faithful.distinct _ _ _ leftPrinted rightPrinted
  refine Std.ExtTreeMap.ext_getElem? fun key => ?_
  by_cases own : key = "hash"
  · rw [own, recorded]
  · have inPayload := congrArg (fun map : Line Value => map[key]?) payloads
    simpa [Std.ExtTreeMap.getElem?_erase, Ne.symm own] using inPayload

theorem Passes.eq_of_lastHash (faithful : tools.Faithful) (collisionFree : Set.InjOn tools.sha256 seen)
    (passes : Passes tools lines) (otherPasses : Passes tools otherLines)
    (hashed : HashedIn tools seen lines) (otherHashed : HashedIn tools seen otherLines)
    (same : lastHash tools lines = lastHash tools otherLines) : lines = otherLines :=
  passes.linked.eq_of_tip_eq (digest_injOn faithful collisionFree)
    (fun entry _ => digest_ne_chainStart faithful entry) otherPasses.linked
    (fun entry member => ⟨passes.recorded entry member, hashed entry member⟩)
    (fun entry member => ⟨otherPasses.recorded entry member, otherHashed entry member⟩) same

end Check

section Steps

variable {Value : Type} {tools : AuditTools Value} {date : String} {state : AuditState}
variable {lines : List (Line Value)} {texts : List Bytes} {left returned : Prop} {entry : Line Value}

theorem passes_nil : Passes tools [] := ⟨by simp, trivial⟩

theorem passes_concat : Passes tools (lines ++ [entry]) ↔
    Passes tools lines ∧ entry["hash"]? = digest tools entry ∧ link entry = lastHash tools lines := by
  constructor
  · rintro ⟨recorded, linked⟩
    obtain ⟨before, last⟩ := HashChain.linked_concat.mp linked
    exact ⟨⟨fun earlier member => recorded earlier (List.mem_append_left _ member), before⟩,
      recorded entry (by simp), last⟩
  · rintro ⟨⟨recorded, linked⟩, own, last⟩
    refine ⟨fun earlier member => ?_, HashChain.linked_concat.mpr ⟨linked, last⟩⟩
    rcases List.mem_append.mp member with before | only
    · exact recorded earlier before
    · rw [List.mem_singleton.mp only]
      exact own

structure Continues (tools : AuditTools Value) (lastHash : String) (entry : Line Value)
    (hash : String) (text : Bytes) : Prop where
  printed : tools.toVec entry = some text
  link : Audit.link entry = some (tools.string lastHash)
  digest : Audit.digest tools entry = some (tools.string hash)
  recorded : entry["hash"]? = Audit.digest tools entry

/-- The file of a day: one chain, or a chain after lines that it does not continue. The day has been
left when a later event had another date, and the log has returned to it when a line is written
after that. -/
inductive DayFile (tools : AuditTools Value) (date : String) (texts : List Bytes) (state : AuditState)
    (left returned : Prop) : Prop where
  | whole (lines : List (Line Value)) (printed : Prints tools lines texts) (passes : Passes tools lines)
      (stayed : ¬left) (once : ¬returned) (present : lines ≠ [] → state.currentDate = date)
      (linked : state.currentDate = date → lastHash tools lines = some (tools.string state.lastHash))
  | split (older recent : List (Line Value)) (printed : Prints tools (older ++ recent) texts)
      (passes : Passes tools recent) (written : recent ≠ []) (gone : left) (again : returned ↔ older ≠ [])
      (linked : state.currentDate = date → state.lastHash = "" ∨
        lastHash tools recent = some (tools.string state.lastHash) ∧ older ≠ [])

theorem DayFile.congr {left' returned' : Prop} (file : DayFile tools date texts state left returned)
    (sameLeft : left' ↔ left) (sameReturned : returned' ↔ returned) :
    DayFile tools date texts state left' returned' := by
  rw [← propext sameLeft, ← propext sameReturned] at file
  exact file

theorem rotate_currentDate (state : AuditState) (today : String) :
    (state.rotate today).currentDate = today := by
  unfold AuditState.rotate
  split
  · rfl
  · next same => exact (not_not.mp same).symm

theorem rotate_baseDir (state : AuditState) (today : String) :
    (state.rotate today).baseDir = state.baseDir := by
  unfold AuditState.rotate
  split <;> rfl

theorem DayFile.away {other : AuditState} (file : DayFile tools date texts state left returned)
    (elsewhere : other.currentDate ≠ date) :
    DayFile tools date texts other (left ∨ texts ≠ []) returned := by
  cases file with
  | whole lines printed passes stayed once present linked =>
      by_cases empty : lines = []
      · subst empty
        cases printed
        exact .whole [] .nil passes_nil (by simpa using stayed) once (fun some => absurd rfl some)
          fun here => absurd here elsewhere
      · have written : texts ≠ [] := by
          rintro rfl
          cases printed
          exact empty rfl
        exact .split [] lines printed passes empty (.inr written)
          ⟨fun again => absurd again once, fun some => absurd rfl some⟩ fun here => absurd here elsewhere
  | split older recent printed passes written gone again linked =>
      exact .split older recent printed passes written (.inl gone) again fun here => absurd here elsewhere

theorem DayFile.rotate (file : DayFile tools date texts state left returned) :
    DayFile tools date texts (state.rotate date) left returned := by
  by_cases here : state.currentDate = date
  · have unchanged : state.rotate date = state := if_neg (not_not.mpr here.symm)
    rw [unchanged]
    exact file
  · have fresh : state.rotate date = { state with currentDate := date, lastHash := "" } :=
      if_pos (Ne.symm here)
    rw [fresh]
    cases file with
    | whole lines printed passes stayed once present linked =>
        have empty : lines = [] := by
          by_contra some
          exact here (present some)
        subst empty
        exact .whole [] printed passes stayed once (fun _ => rfl) fun _ => rfl
    | split older recent printed passes written gone again linked =>
        exact .split older recent printed passes written gone again fun _ => .inl rfl

theorem Prints.concat {text : Bytes} (printed : Prints tools lines texts)
    (own : tools.toVec entry = some text) : Prints tools (lines ++ [entry]) (texts ++ [text]) :=
  List.rel_append printed (.cons own .nil)

theorem DayFile.append {hash : String} {text : Bytes}
    (file : DayFile tools date texts state left returned) (here : state.currentDate = date)
    (continues : Continues tools state.lastHash entry hash text) :
    DayFile tools date (texts ++ [text]) { state with lastHash := hash } left (returned ∨ left) := by
  obtain ⟨own, link, digest, recorded⟩ := continues
  have ends : ∀ lines : List (Line Value), lastHash tools (lines ++ [entry]) = some (tools.string hash) := by
    intro lines
    rw [lastHash, HashChain.tip_concat, digest]
  cases file with
  | whole lines printed passes stayed once present linked =>
      have next : Passes tools (lines ++ [entry]) :=
        passes_concat.mpr ⟨passes, recorded, link.trans (linked here).symm⟩
      exact .whole (lines ++ [entry]) (printed.concat own) next stayed (not_or.mpr ⟨once, stayed⟩)
        (fun _ => here) fun _ => ends lines
  | split older recent printed passes written gone again linked =>
      rcases linked here with fresh | ⟨joined, before⟩
      · have alone : Passes tools ([] ++ [entry]) :=
          passes_concat.mpr ⟨passes_nil, recorded, by rw [link, fresh]; rfl⟩
        have some : older ++ recent ≠ [] := by simp [written]
        exact .split (older ++ recent) [entry] (printed.concat own) alone (by simp) gone
          ⟨fun _ => some, fun _ => .inr gone⟩ fun _ => .inr ⟨ends [], some⟩
      · have next : Passes tools (recent ++ [entry]) :=
          passes_concat.mpr ⟨passes, recorded, link.trans joined.symm⟩
        refine .split older (recent ++ [entry]) ?_ next (by simp) gone
          ⟨fun _ => before, fun _ => .inr gone⟩ fun _ => .inr ⟨ends recent, before⟩
        rw [← List.append_assoc]
        exact printed.concat own

end Steps

section Lines

variable {Value : Type} {tools : AuditTools Value}

theorem payload_prevHash (hash : String) (call : Call Value) :
    (payload tools hash call)["prev_hash"]? = some (tools.string hash) := by
  simp [payload]

theorem addField_unsealed {map : Std.ExtTreeMap String Value} (field : String × Value)
    (absent : map["hash"]? = none) : (addField map field)["hash"]? = none := by
  unfold addField
  by_cases taken : field.1 ∈ reservedFields
  · rw [if_pos taken]
    exact absent
  · have other : field.1 ≠ "hash" := by
      intro same
      exact taken (by rw [same]; decide)
    rw [if_neg taken, Std.ExtTreeMap.getElem?_insert, if_neg (by simpa using other)]
    exact absent

theorem foldl_addField_unsealed (fields : List (String × Value)) :
    ∀ map : Std.ExtTreeMap String Value, map["hash"]? = none → (fields.foldl addField map)["hash"]? = none := by
  induction fields with
  | nil => exact fun _ absent => absent
  | cons field fields ih => exact fun map absent => ih _ (addField_unsealed field absent)

theorem payload_unsealed (hash : String) (call : Call Value) :
    (payload tools hash call)["hash"]? = none := by
  simp only [payload]
  rw [Std.ExtTreeMap.getElem?_insert, if_neg (by simp)]
  exact foldl_addField_unsealed call.fields.toList _ (by simp)

theorem erase_insert_absent {map : Std.ExtTreeMap String Value} {key : String} (value : Value)
    (absent : map[key]? = none) : (map.insert key value).erase key = map := by
  refine Std.ExtTreeMap.ext_getElem? fun other => ?_
  by_cases same : key = other
  · subst same
    simp [absent]
  · simp [Std.ExtTreeMap.getElem?_erase, Std.ExtTreeMap.getElem?_insert, same]

theorem sealLine_continues (faithful : tools.Faithful) (hash : String) (call : Call Value) :
    ∃ own text entry, sealLine tools (payload tools hash call) = some (own, text) ∧
      Continues tools hash entry own text := by
  obtain ⟨canon, printed⟩ := faithful.printed (payload tools hash call)
  let entry := (payload tools hash call).insert "hash" (tools.string (hashHex tools canon))
  obtain ⟨text, sealed⟩ := faithful.printed entry
  have digested : digest tools entry = some (tools.string (hashHex tools canon)) := by
    rw [digest, erase_insert_absent _ (payload_unsealed hash call), printed, Option.map_some]
  refine ⟨hashHex tools canon, text, entry, ?_, sealed, ?_, digested, ?_⟩
  · rw [sealLine, printed, Option.bind_eq_bind, Option.bind_some]
    change (tools.toVec entry >>= _) = _
    rw [sealed]
    rfl
  · rw [link, Std.ExtTreeMap.getElem?_insert, if_neg (by simp)]
    exact payload_prevHash hash call
  · rw [digested]
    exact Std.ExtTreeMap.getElem?_insert_self

theorem auditPath_injective (baseDir : String) : Function.Injective (auditPath baseDir) := by
  intro left right same
  have chars := congrArg String.toList same
  simp only [auditPath, String.toList_append, List.append_assoc, List.append_cancel_left_eq,
    List.append_cancel_right_eq] at chars
  exact String.toList_injective chars

end Lines

section Runs

open Runs

variable {Value : Type} {tools : AuditTools Value} {baseDir date today : String} {log next : AuditLog}
variable {calls : List (Call Value)} {call : Call Value}

def dateAfter (calls : List (Call Value)) : String :=
  ((calls.filter Call.locked).getLast?.bind fun call => ymd call.unixSecs).getD ""

structure Lands (date : String) (before : List (Call Value)) (call : Call Value) : Prop where
  locked : call.locked = true
  day : ymd call.unixSecs = some date
  directory : dateAfter before = date ∨ call.createDirAll = true
  opened : call.openAppend = true
  written : call.writeLine = true

structure Elsewhere (date : String) (call : Call Value) : Prop where
  locked : call.locked = true
  day : ymd call.unixSecs ≠ some date

def Landed (date : String) : List (Call Value) → Prop := Occurs (Lands date)

def Left (date : String) : List (Call Value) → Prop :=
  Occurs fun before call => Landed date before ∧ Elsewhere date call

def Returned (date : String) : List (Call Value) → Prop :=
  Occurs fun before call => Left date before ∧ Lands date before call

def AuditLog.current (log : AuditLog) (baseDir : String) : AuditState := log.state.getD (.new baseDir)

theorem dateAfter_unlocked (open_ : call.locked = false) : dateAfter (calls ++ [call]) = dateAfter calls := by
  simp [dateAfter, List.filter_append, open_]

theorem dateAfter_locked (locked : call.locked = true) (day : ymd call.unixSecs = some today) :
    dateAfter (calls ++ [call]) = today := by
  simp [dateAfter, List.filter_append, locked, day]

theorem writeEvent_locked (faithful : tools.Faithful) (locked : call.locked = true)
    (day : ymd call.unixSecs = some today) :
    ∃ hash text entry, Continues tools ((log.current baseDir).rotate today).lastHash entry hash text ∧
      writeEvent tools baseDir log call = some (
        if ((log.current baseDir).currentDate = today ∨ call.createDirAll = true) ∧
            call.openAppend = true ∧ call.writeLine = true then
          let path := ((log.current baseDir).rotate today).currentPath
          { state := some { (log.current baseDir).rotate today with lastHash := hash }
            files := log.files.insert path ((log.files[path]?).getD [] ++ [text]) }
        else { log with state := some ((log.current baseDir).rotate today) }) := by
  obtain ⟨hash, text, entry, sealed, continues⟩ := sealLine_continues faithful
    ((log.current baseDir).rotate today).lastHash call
  refine ⟨hash, text, entry, continues, ?_⟩
  rw [AuditLog.current] at sealed ⊢
  simp only [writeEvent, locked, day, Option.bind_eq_bind, Option.bind_some, sealed,
    Bool.true_eq_false, if_false, Option.pure_def]
  by_cases same : (log.state.getD (AuditState.new baseDir)).currentDate = today
  · by_cases opened : call.openAppend = true
    · by_cases written : call.writeLine = true <;> simp [same, opened, written]
    · simp [same, opened]
  · by_cases directory : call.createDirAll = true
    · by_cases opened : call.openAppend = true
      · by_cases written : call.writeLine = true <;> simp [same, Ne.symm same, directory, opened, written]
      · simp [same, Ne.symm same, directory, opened]
    · simp [same, Ne.symm same, directory]

structure Follows (tools : AuditTools Value) (baseDir : String) (calls : List (Call Value))
    (log : AuditLog) : Prop where
  directory : (log.current baseDir).baseDir = baseDir
  date : (log.current baseDir).currentDate = dateAfter calls
  landed : ∀ date, Landed date calls ↔ log.linesOf baseDir date ≠ []
  files : ∀ date, DayFile tools date (log.linesOf baseDir date) (log.current baseDir) (Left date calls)
    (Returned date calls)

theorem follows_nil (tools : AuditTools Value) (baseDir : String) :
    Follows tools baseDir [] ⟨none, ∅⟩ where
  directory := rfl
  date := rfl
  landed date := by simp [Landed, not_occurs_nil, AuditLog.linesOf]
  files date := by
    have empty : AuditLog.linesOf ⟨none, ∅⟩ baseDir date = [] := by simp [AuditLog.linesOf]
    rw [empty]
    exact .whole [] .nil passes_nil not_occurs_nil not_occurs_nil (fun some => absurd rfl some) fun _ => rfl

theorem not_lands_unlocked (free : call.locked = false) : ¬Lands date calls call := by
  rintro ⟨locked, _⟩
  rw [free] at locked
  cases locked

theorem left_here (day : ymd call.unixSecs = some date) : Left date (calls ++ [call]) ↔ Left date calls := by
  rw [Left, occurs_concat]
  refine or_iff_left ?_
  rintro ⟨_, away⟩
  exact away.day day

theorem returned_concat :
    Returned date (calls ++ [call]) ↔ Returned date calls ∨ Left date calls ∧ Lands date calls call :=
  occurs_concat

theorem landed_concat :
    Landed date (calls ++ [call]) ↔ Landed date calls ∨ Lands date calls call :=
  occurs_concat

theorem Follows.unlocked (follows : Follows tools baseDir calls log) (free : call.locked = false) :
    Follows tools baseDir (calls ++ [call]) log where
  directory := follows.directory
  date := by rw [dateAfter_unlocked free, follows.date]
  landed date := by rw [landed_concat, or_iff_left (not_lands_unlocked free), follows.landed]
  files date := by
    refine (follows.files date).congr ?_ ?_
    · rw [Left, occurs_concat]
      refine or_iff_left ?_
      rintro ⟨_, away⟩
      exact absurd away.locked (by rw [free]; decide)
    · rw [returned_concat]
      exact or_iff_left fun again => not_lands_unlocked free again.2

theorem Follows.locked (follows : Follows tools baseDir calls log) (locked : call.locked = true)
    (day : ymd call.unixSecs = some today)
    (directory : (next.current baseDir).baseDir = baseDir)
    (date : (next.current baseDir).currentDate = today)
    (others : ∀ date, date ≠ today → next.linesOf baseDir date = log.linesOf baseDir date)
    (landed : Lands today calls call ∨ Landed today calls ↔ next.linesOf baseDir today ≠ [])
    (file : DayFile tools today (next.linesOf baseDir today) (next.current baseDir) (Left today calls)
      (Returned today calls ∨ Left today calls ∧ Lands today calls call)) :
    Follows tools baseDir (calls ++ [call]) next where
  directory := directory
  date := by rw [date, dateAfter_locked locked day]
  landed other := by
    rw [landed_concat]
    by_cases here : other = today
    · rw [here, or_comm]
      exact landed
    · have elsewhere : ¬Lands other calls call := by
        intro lands
        exact here (Option.some.inj (lands.day.symm.trans day))
      rw [or_iff_left elsewhere, others other here, follows.landed]
  files other := by
    by_cases here : other = today
    · subst here
      exact file.congr (left_here day) returned_concat
    · have elsewhere : ymd call.unixSecs ≠ some other := by
        rw [day]
        exact fun same => here (Option.some.inj same).symm
      rw [others other here]
      refine ((follows.files other).away (by rw [date]; exact Ne.symm here)).congr ?_ ?_
      · rw [Left, occurs_concat, ← follows.landed other]
        exact or_congr_right ⟨And.left, fun landed => ⟨landed, locked, elsewhere⟩⟩
      · rw [returned_concat]
        exact or_iff_left fun again => elsewhere again.2.day

theorem linesOf_insert (state : Option AuditState) (files : Std.ExtTreeMap String (List Bytes))
    (lines : List Bytes) :
    AuditLog.linesOf ⟨state, files.insert (auditPath baseDir today) lines⟩ baseDir date =
      if today = date then lines else AuditLog.linesOf ⟨state, files⟩ baseDir date := by
  simp only [AuditLog.linesOf, Std.ExtTreeMap.getElem?_insert, compare_eq_iff_eq,
    (auditPath_injective baseDir).eq_iff]
  split <;> rfl

theorem Follows.step (faithful : tools.Faithful) (follows : Follows tools baseDir calls log)
    (fits : call.unixSecs ≤ u64Max) :
    ∃ next, writeEvent tools baseDir log call = some next ∧ Follows tools baseDir (calls ++ [call]) next := by
  cases locked : call.locked with
  | false => exact ⟨log, if_pos locked, follows.unlocked locked⟩
  | true =>
      obtain ⟨today, printed⟩ : ∃ today, ymd call.unixSecs = some today :=
        (ymd_eq fits).imp' dateText fun _ dated => dated.1
      obtain ⟨hash, text, entry, continues, ran⟩ :=
        @writeEvent_locked Value tools baseDir today log call faithful locked printed
      have file := (follows.files today).rotate
      have here := rotate_currentDate (log.current baseDir) today
      have directory : ((log.current baseDir).rotate today).baseDir = baseDir := by
        rw [rotate_baseDir, follows.directory]
      have path : ((log.current baseDir).rotate today).currentPath = auditPath baseDir today := by
        rw [AuditState.currentPath, directory, here]
      have landing : Lands today calls call ↔
          ((log.current baseDir).currentDate = today ∨ call.createDirAll = true) ∧
            call.openAppend = true ∧ call.writeLine = true := by
        rw [follows.date]
        exact ⟨fun ⟨_, _, dir, opened, written⟩ => ⟨dir, opened, written⟩,
          fun ⟨dir, opened, written⟩ => ⟨locked, printed, dir, opened, written⟩⟩
      simp only [path] at ran
      generalize (log.current baseDir).rotate today = rotated at continues ran file here directory
      by_cases lands : Lands today calls call
      · rw [if_pos (landing.mp lands)] at ran
        refine ⟨_, ran, follows.locked locked printed directory here ?_ ?_ ?_⟩
        · intro other elsewhere
          rw [linesOf_insert, if_neg (Ne.symm elsewhere)]
          rfl
        · rw [linesOf_insert, if_pos rfl]
          simp [lands]
        · rw [linesOf_insert, if_pos rfl]
          refine (file.append here continues).congr Iff.rfl ?_
          rw [and_iff_left lands]
      · rw [if_neg fun condition => lands (landing.mpr condition)] at ran
        refine ⟨_, ran, follows.locked locked printed directory here (fun _ _ => rfl) ?_ ?_⟩
        · rw [or_iff_right lands, follows.landed]
          rfl
        · refine file.congr Iff.rfl ?_
          exact or_iff_left fun again => lands again.2

theorem writeEvents_follows (faithful : tools.Faithful) (baseDir : String)
    (fits : ∀ call ∈ calls, call.unixSecs ≤ u64Max) :
    ∃ log, writeEvents tools baseDir calls = some log ∧ Follows tools baseDir calls log := by
  induction calls using List.reverseRecOn with
  | nil => exact ⟨_, rfl, follows_nil tools baseDir⟩
  | append_singleton calls call ih =>
      obtain ⟨log, ran, follows⟩ := ih fun earlier member => fits earlier (List.mem_append_left _ member)
      obtain ⟨next, last, after⟩ := follows.step faithful (fits call (by simp))
      refine ⟨next, ?_, after⟩
      rw [writeEvents] at ran ⊢
      rw [List.foldlM_append, ran, Option.bind_eq_bind, Option.bind_some]
      simpa using last

end Runs

section Evidence

variable {Value : Type} {tools : AuditTools Value} {seen : Set Bytes} {baseDir date : String}
variable {lines otherLines older recent : List (Line Value)} {texts others : List Bytes}

theorem Prints.texts_eq (printed : Prints tools lines texts) (again : Prints tools lines others) :
    texts = others := by
  induction printed generalizing others with
  | nil => cases again; rfl
  | cons first _ ih =>
      cases again with
      | cons same rest => rw [Option.some.inj (first.symm.trans same), ih rest]

theorem Prints.lines_eq (faithful : tools.Faithful) (printed : Prints tools lines texts)
    (again : Prints tools otherLines texts) : lines = otherLines := by
  induction printed generalizing otherLines with
  | nil => cases again; rfl
  | cons first _ ih =>
      cases again with
      | cons same rest => rw [faithful.distinct _ _ _ first same, ih rest]

theorem tamperEvident_of_passes (faithful : tools.Faithful)
    (collisionFree : Set.InjOn tools.sha256 seen) (printed : Prints tools lines texts)
    (passes : Passes tools lines) (hashed : HashedIn tools seen lines) :
    TamperEvident tools seen texts := by
  intro own ownPrinted otherLines others otherPrinted otherHashed otherPasses same
  obtain rfl := printed.lines_eq faithful ownPrinted
  obtain rfl := passes.eq_of_lastHash faithful collisionFree otherPasses hashed otherHashed same.symm
  exact otherPrinted.texts_eq printed

theorem not_tamperEvident_of_split (printed : Prints tools (older ++ recent) texts)
    (passes : Passes tools recent) (written : recent ≠ []) (before : older ≠ [])
    (hashed : HashedIn tools seen (older ++ recent)) : ¬TamperEvident tools seen texts := by
  intro evident
  have tail : Prints tools recent (texts.drop older.length) := by
    have dropped := List.forall₂_drop older.length printed
    rwa [List.drop_left] at dropped
  have sameEnd : lastHash tools recent = lastHash tools (older ++ recent) := by
    rw [lastHash, lastHash, HashChain.tip, HashChain.tip, List.getLast?_append_of_ne_nil _ written]
  have same := evident _ printed recent _ tail
    (fun entry member => hashed entry (List.mem_append_right _ member)) passes sameEnd
  have lengths := congrArg List.length same
  have total := printed.length_eq
  have positive := List.length_pos_iff.mpr before
  have some := List.length_pos_iff.mpr written
  rw [List.length_drop] at lengths
  rw [List.length_append] at total
  omega

/-- The lines a process writes to a day's file are determined by the last hash, unless the clock
has left the day and come back: the chain starts anew then, and the lines before it can go. -/
theorem dayFile_tamperEvident_iff (tools : AuditTools Value) (faithful : tools.Faithful)
    (seen : Set Bytes) (collisionFree : Set.InjOn tools.sha256 seen) (baseDir date : String)
    (calls : List (Call Value)) (fits : ∀ call ∈ calls, call.unixSecs ≤ u64Max) (log : AuditLog)
    (ran : writeEvents tools baseDir calls = some log)
    (hashed : ∀ lines, Prints tools lines (log.linesOf baseDir date) → HashedIn tools seen lines) :
    TamperEvident tools seen (log.linesOf baseDir date) ↔ ¬Returned date calls := by
  obtain ⟨same, again, follows⟩ := writeEvents_follows faithful baseDir fits
  obtain rfl := Option.some.inj (again.symm.trans ran)
  cases follows.files date with
  | whole lines printed passes stayed once present linked =>
      refine iff_of_true ?_ once
      exact tamperEvident_of_passes faithful collisionFree printed passes (hashed lines printed)
  | split older recent printed passes written gone again linked =>
      rw [again, not_not]
      constructor
      · intro evident
        by_contra before
        exact not_tamperEvident_of_split printed passes written before (hashed _ printed) evident
      · rintro rfl
        exact tamperEvident_of_passes faithful collisionFree printed passes (hashed _ printed)

theorem not_returned_of_day {calls : List (Call Value)}
    (day : ∀ call ∈ calls, ymd call.unixSecs = some date) : ¬Returned date calls := by
  rintro ⟨front, _, _, whole, ⟨_, call, _, split, _, away⟩, _⟩
  exact away.day (day call (by simp [whole, split]))

end Evidence

section Sample

open PrefixCode

def quoteText (text : String) : Bytes :=
  text.toList.flatMap (fun char => 1 :: toBeBytes 4 char.toNat) ++ [0]

theorem quoteText_reads : Reads quoteText fun _ => True := by
  have chars : ∀ (left right : List Char) (restLeft restRight : Bytes),
      left.flatMap (fun char => 1 :: toBeBytes 4 char.toNat) ++ 0 :: restLeft =
        right.flatMap (fun char => 1 :: toBeBytes 4 char.toNat) ++ 0 :: restRight →
      left = right ∧ restLeft = restRight := by
    intro left
    induction left with
    | nil =>
        intro right restLeft restRight same
        cases right with
        | nil => exact ⟨rfl, (List.cons.inj same).2⟩
        | cons char right => exact absurd (List.cons.inj same).1 (by decide)
    | cons first left ih =>
        intro right restLeft restRight same
        cases right with
        | nil => exact absurd (List.cons.inj same).1 (by decide)
        | cons other right =>
            simp only [List.flatMap_cons, List.cons_append, List.append_assoc, List.cons.injEq,
              true_and] at same
            obtain ⟨code, rest⟩ := List.append_inj same (by simp [toBeBytes_length])
            have bound : ∀ char : Char, char.toNat < 256 ^ 4 := by
              intro char
              have := char.val.toNat_lt
              simpa using this
            have numbers := toBeBytes_injective (bound first) (bound other) code
            obtain ⟨rfl, ends⟩ := ih right restLeft restRight rest
            exact ⟨by rw [Char.toNat_inj.mp numbers], ends⟩
  intro left right _ _ restLeft restRight same
  rw [quoteText, quoteText, List.append_assoc, List.append_assoc] at same
  obtain ⟨texts, rest⟩ := chars left.toList right.toList restLeft restRight same
  exact ⟨String.toList_injective texts, rest⟩

def quoteField (field : String × String) : Bytes := quoteText field.1 ++ quoteText field.2

theorem quoteField_reads : Reads quoteField fun _ => True := by
  intro left right _ _ restLeft restRight same
  rw [quoteField, quoteField, List.append_assoc, List.append_assoc] at same
  obtain ⟨key, rest⟩ := quoteText_reads _ _ trivial trivial _ _ same
  obtain ⟨value, rest⟩ := quoteText_reads _ _ trivial trivial _ _ rest
  exact ⟨Prod.ext key value, rest⟩

def sampleTools : AuditTools String where
  number value := String.ofList (decimal 1 value)
  string := id
  toVec map := some (map.toList.flatMap quoteField)
  sha256 := polynomialHash

theorem sampleTools_faithful : sampleTools.Faithful where
  printed map := ⟨_, rfl⟩
  distinct left right text leftPrinted rightPrinted := by
    have same := Option.some.inj (leftPrinted.trans rightPrinted.symm)
    have entries := quoteField_reads.stream (fun field => by simp [quoteField, quoteText])
      (fun _ _ => trivial) (fun _ _ => trivial) same
    exact Std.ExtTreeMap.toList_inj.mp entries
  string_injective := Function.injective_id

def eventAt (unixSecs : Nat) : Call String where
  unixSecs
  unixNanos := 0
  fields := ∅
  level := "INFO"
  target := "viper.audit"
  locked := true
  createDirAll := true
  openAppend := true
  writeLine := true

def entryAt (hash : String) (unixSecs : Nat) : Line String :=
  let own := payload sampleTools hash (eventAt unixSecs)
  own.insert "hash" (hashHex sampleTools (own.toList.flatMap quoteField))

def canonOf (lines : List (Line String)) : List Bytes :=
  lines.map fun entry => (entry.erase "hash").toList.flatMap quoteField

theorem canonOf_hashed {lines : List (Line String)} {texts : List Bytes}
    (written : texts = lines.map fun entry => entry.toList.flatMap quoteField) :
    Prints sampleTools lines texts ∧ ∀ others, Prints sampleTools others texts →
      HashedIn sampleTools {canon | canon ∈ canonOf lines} others := by
  have printed : Prints sampleTools lines texts := by
    rw [written, Prints, List.forall₂_map_right_iff]
    exact List.forall₂_same.mpr fun _ _ => rfl
  refine ⟨printed, fun others again => ?_⟩
  obtain rfl := printed.lines_eq sampleTools_faithful again
  intro entry member canon hashed
  exact List.mem_map.mpr ⟨entry, member, Option.some.inj hashed⟩

/-- The clock is set back over midnight: the first line of the day can be left out. -/
theorem returnedDay_rewritable : ∃ log seen,
    writeEvents sampleTools "/audit" [eventAt 86399, eventAt 86400, eventAt 86398] = some log ∧
      sampleTools.Faithful ∧ Set.InjOn sampleTools.sha256 seen ∧
      (∀ lines, Prints sampleTools lines (log.linesOf "/audit" "19700101") →
        HashedIn sampleTools seen lines) ∧
      ¬TamperEvident sampleTools seen (log.linesOf "/audit" "19700101") := by
  let first := entryAt "" 86399
  let back := entryAt "" 86398
  have file : (writeEvents sampleTools "/audit" [eventAt 86399, eventAt 86400, eventAt 86398]).map
      (fun log => log.linesOf "/audit" "19700101") =
        some ([first, back].map fun entry => entry.toList.flatMap quoteField) := by decide +kernel
  obtain ⟨log, ran, written⟩ := Option.map_eq_some_iff.mp file
  have injective : ∀ left ∈ canonOf [first, back], ∀ right ∈ canonOf [first, back],
      sampleTools.sha256 left = sampleTools.sha256 right → left = right := by decide +kernel
  have passes : Passes sampleTools [back] :=
    ⟨by decide +kernel, by decide +kernel, trivial⟩
  obtain ⟨printed, hashed⟩ := canonOf_hashed written
  exact ⟨log, _, ran, sampleTools_faithful, fun left member right => injective left member right, hashed,
    @not_tamperEvident_of_split String sampleTools _ [first] [back] _ printed passes (by simp) (by simp)
      (hashed _ printed)⟩

theorem dayFile_tamperEvident_iff_oneDay : ∃ log seen,
    writeEvents sampleTools "/audit" [eventAt 0, eventAt 1] = some log ∧
      (log.linesOf "/audit" "19700101").length = 2 ∧
      TamperEvident sampleTools seen (log.linesOf "/audit" "19700101") := by
  let first := entryAt "" 0
  let second := entryAt (hashHex sampleTools ((payload sampleTools "" (eventAt 0)).toList.flatMap quoteField)) 1
  have file : (writeEvents sampleTools "/audit" [eventAt 0, eventAt 1]).map
      (fun log => log.linesOf "/audit" "19700101") =
        some ([first, second].map fun entry => entry.toList.flatMap quoteField) := by decide +kernel
  obtain ⟨log, ran, written⟩ := Option.map_eq_some_iff.mp file
  have injective : ∀ left ∈ canonOf [first, second], ∀ right ∈ canonOf [first, second],
      sampleTools.sha256 left = sampleTools.sha256 right → left = right := by decide +kernel
  have day : ∀ call ∈ [eventAt 0, eventAt 1], ymd call.unixSecs = some "19700101" := by decide +kernel
  refine ⟨log, {canon | canon ∈ canonOf [first, second]}, ran, by rw [written]; rfl, ?_⟩
  exact (dayFile_tamperEvident_iff sampleTools sampleTools_faithful _
    (fun left member right => injective left member right) "/audit" "19700101" _ (by decide) log ran
    (canonOf_hashed written).2).mpr (not_returned_of_day day)

end Sample

end ViperChain.Audit

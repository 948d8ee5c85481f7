import Chttp.App.Multipart.RoundTrip
import Chttp.App.Upload.Request

/-!
# An upload commits or aborts once

Every call is one of a few moves: a transaction is begun, octets are read, the
body is complete, the transaction is aborted or committed, the memory is free
again.  A transaction which is still open has neither been aborted nor
committed, and its parser has read everything which was written unless it has
failed; from this the order of the callbacks follows for every run.
-/

namespace Chttp.App

open Lib Server

variable {Application : Type*} (request : RequestView)

namespace UploadEvent

/-- The transaction is aborted. -/
def isAbort : UploadEvent → Bool
  | .aborts .. => true
  | _ => false

/-- The application has committed the transaction. -/
def isCommit : UploadEvent → Bool
  | .commits _ _ _ _ status => status = .ok
  | _ => false

/-- A callback of the parser. -/
def isPart : UploadEvent → Bool
  | .partBegins _ => true
  | .partData _ => true
  | .partEnds => true
  | _ => false

/-- A new parser reads the body without an error and is at its end. -/
def Parsed (boundary written : Bytes) : Prop := ∃ limits parser events,
    (MultipartParser.fresh limits boundary).feed recorder [] written =
        (MultipartParser.accepted written.length, parser, events) ∧
      parser.finish.1.status = .ok

/-- The token is the one of the session of the request. -/
def Authentic (token : Option Bytes) : Prop :=
  ∃ expected, csrfToken request.session = some expected ∧ token = some expected

/-- What has to come before a commit. -/
def Founded : UploadEvent → Prop
  | .commits boundary written request token _ =>
    Parsed boundary written ∧ MultipartParser.Complete boundary written ∧
      (csrfMethodUnsafe request.method = true → Authentic request token)
  | _ => True

end UploadEvent

/-- How often a transaction was aborted. -/
def abortsOf (transaction : Nat) (log : List (Nat × UploadEvent)) : Nat :=
  log.countP fun entry => entry.1 = transaction && entry.2.isAbort

/-- How often a transaction was committed. -/
def commitsOf (transaction : Nat) (log : List (Nat × UploadEvent)) : Nat :=
  log.countP fun entry => entry.1 = transaction && entry.2.isCommit

/-! ## The callbacks of the parser -/

namespace Upload

/-- Callbacks of the parser leave a transaction open. -/
structure Reads (reading reading' : Reading Application) : Prop where
  state : reading'.1.state = reading.1.state
  begun : reading'.1.begun = reading.1.begun
  transaction : reading'.1.transaction = reading.1.transaction
  written : reading'.1.written = reading.1.written
  log : ∃ events : List UploadEvent, reading'.2.log =
        reading.2.log ++ events.map ((reading.1.transaction, ·)) ∧
      ∀ event ∈ events, event.isPart = true

variable (reading : Reading Application)

theorem Reads.refl : Reads reading reading :=
  ⟨rfl, rfl, rfl, rfl, [], (List.append_nil _).symm, List.forall_mem_nil _⟩

/-- Readings compose. -/
theorem Reads.trans {first second third : Reading Application}
    (before : Reads first second)
    (behind : Reads second third) : Reads first third := by
  obtain ⟨events, log, parts⟩ := before.log
  obtain ⟨events', log', parts'⟩ := behind.log
  refine ⟨behind.state.trans before.state, behind.begun.trans before.begun,
    behind.transaction.trans before.transaction,
    behind.written.trans before.written, events ++ events', ?_, ?_⟩
  · rw [log', log, before.transaction, List.map_append, List.append_assoc]
  · exact List.forall_mem_append.mpr ⟨parts, parts'⟩

theorem reads_quiet {upload upload' : Upload Application}
    {outside : Outside Application}
    (state : upload'.state = upload.state)
    (begun : upload'.begun = upload.begun)
    (transaction : upload'.transaction = upload.transaction)
    (written : upload'.written = upload.written) :
    Reads (upload, outside) (upload', outside) :=
  ⟨state, begun, transaction, written, [], (List.append_nil _).symm,
    List.forall_mem_nil _⟩

theorem reads_call {upload upload' : Upload Application}
    {outside : Outside Application}
    (quiet : Reads (upload, outside) (upload', outside)) {event : UploadEvent}
    (part : event.isPart = true) (application : Application) :
    Reads (upload, outside)
    (upload', outside.call upload'.transaction event application) := by
  have transaction : upload'.transaction = upload.transaction :=
    quiet.transaction
  refine ⟨quiet.state, quiet.begun, transaction, quiet.written, [event],
    ?_, by simpa using part⟩
  rw [transaction]
  rfl

theorem partBegin_reads (part : MultipartPart) (reading : Reading Application) :
    Reads reading (partBegin part reading).2 := by
  unfold partBegin
  dsimp only
  split_ifs
  · exact .refl reading
  · exact reads_quiet rfl rfl rfl rfl
  · exact reads_quiet rfl rfl rfl rfl
  · refine @reads_call _ reading.1 _ reading.2 ?_ (.partBegins part) rfl _
    exact reads_quiet rfl rfl rfl rfl

theorem partData_reads (data : Bytes) (reading : Reading Application) :
    Reads reading (partData data reading).2 := by
  unfold partData
  dsimp only
  split_ifs
  · exact .refl reading
  · exact reads_call (reads_quiet rfl rfl rfl rfl) rfl _
  · exact .refl reading
  · exact reads_quiet rfl rfl rfl rfl

theorem partEnd_reads : Reads reading (partEnd reading).2 := by
  unfold partEnd
  dsimp only
  split_ifs
  · exact .refl reading
  · exact reads_quiet rfl rfl rfl rfl
  · exact reads_call (reads_quiet rfl rfl rfl rfl) rfl _

theorem respects_reads :
    MultipartParser.Respects (@multipartCallbacks Application) Reads where
  refl := .refl
  trans := .trans
  deliver reading event := by
    cases event with
    | begins part => exact partBegin_reads part reading
    | chunk data => exact partData_reads data reading
    | ends => exact partEnd_reads reading

end Upload

/-! ## The parser of an upload -/

namespace MultipartParser

/-- The parser has read what was written, unless it has failed. -/
def Tracks (parser : MultipartParser) (written : Bytes) : Prop :=
  parser.failed = true ∨
    ∃ delimiter : Delimiter UInt8, ∃ limits boundary items,
    delimiter.symbols = marker boundary ∧
        written.length ≤ limits.maxTotalBytes ∧
        Octets delimiter (.fresh limits boundary) written items parser

theorem synced_fresh {delimiter : Delimiter UInt8} {limits : MultipartLimits}
    {boundary : Bytes}
    (marks : delimiter.symbols = marker boundary) :
    Synced delimiter (.fresh limits boundary) :=
  ⟨marks, List.nil_prefix, Nat.succ_pos _⟩

variable {parser : MultipartParser}

theorem tracks_init {contentType : CString} {limits : MultipartLimits}
    (opened : init contentType limits = .ok parser) : parser.Tracks [] := by
  obtain ⟨boundary, rfl, accepted⟩ := init_spec opened
  have clean := cr_not_mem_of_accepted accepted
  exact .inr ⟨markerOf boundary clean, limits, boundary, [],
    symbols_markerOf clean, Nat.zero_le _, .nil _⟩

variable {User : Type*} {callbacks : PartCallbacks User}

theorem feed_failed (failed : parser.failed = true) (user : User)
    (data : Bytes) :
    (parser.feed callbacks user data).2.1 = parser ∧
      (parser.feed callbacks user data).1.status ≠ .ok := by
  have unusable : (!parser.active) = true ∨ parser.failed = true := .inr failed
  rw [feed, if_pos unusable]
  exact ⟨rfl, WebStatus.noConfusion⟩

theorem feed_bounded {user : User} {data : Bytes}
    (agreed : (parser.feed callbacks user data).1.status = .ok)
    (bounded : parser.totalBytes ≤ parser.limits.maxTotalBytes) :
    parser.totalBytes + data.length ≤ parser.limits.maxTotalBytes := by
  unfold feed at agreed
  dsimp only at agreed
  split_ifs at agreed with unusable large
  · cases agreed
  · cases agreed
  · omega

/-- A call of the parser adds its octets to what was written. -/
theorem Tracks.feed {written : Bytes} (tracks : parser.Tracks written)
    (user : User)
    (data : Bytes) :
    (parser.feed callbacks user data).2.1.Tracks (written ++ data) := by
  rcases tracks with failed | tracks
  · left
    rw [(feed_failed failed user data).1]
    exact failed
  obtain ⟨delimiter, limits, boundary, items, marks, room, octets⟩ := tracks
  obtain ⟨-, same, active, sound, total⟩ := octets.fixed
  have total' : parser.totalBytes = written.length :=
    total.trans (Nat.zero_add _)
  have synced := octets.synced (synced_fresh marks)
  rcases feed_cases synced active sound rfl with ⟨agreed, next⟩ | refused
  · obtain ⟨items', next⟩ := next
    have bounded := feed_bounded agreed (by rw [total', same]; exact room)
    rw [total', same] at bounded
    exact .inr ⟨delimiter, limits, boundary, items ++ items', marks,
      by rw [List.length_append]; exact bounded, octets.append next⟩
  · exact .inl refused.2

/-- A parser which finishes has read a complete body. -/
theorem Tracks.finish {written : Bytes} (tracks : parser.Tracks written)
    (finished : parser.finish.1.status = .ok) :
    UploadEvent.Parsed parser.finish.2.boundary written ∧
      Complete parser.finish.2.boundary written := by
  have usable : ¬ ((!parser.active) = true ∨ parser.failed = true) := by
    intro unusable
    rw [MultipartParser.finish, if_pos unusable] at finished
    cases finished
  have done : parser.state = .done := by
    by_contra unfinished
    rw [MultipartParser.finish, if_neg usable, if_pos unfinished] at finished
    cases finished
  have same : parser.finish.2.boundary = parser.boundary := by
    rw [MultipartParser.finish, if_neg usable, if_neg (not_not_intro done)]
  rcases tracks with failed | tracks
  · exact absurd (.inr failed) usable
  obtain ⟨delimiter, limits, boundary, items, marks, room, octets⟩ := tracks
  obtain ⟨boundary', -, -, -, total⟩ := octets.fixed
  have whole : (fresh limits boundary).totalBytes + written.length ≤
      (fresh limits boundary).limits.maxTotalBytes := by
    rw [show (fresh limits boundary).totalBytes = 0 from rfl, Nat.zero_add]
    exact room
  obtain ⟨events, log, fed, -, -⟩ :=
    feed_complete recorder_agrees (synced_fresh marks) rfl rfl whole octets []
  rw [same, boundary']
  refine ⟨⟨limits, parser, log, ?_, finished⟩, octets.complete marks done⟩
  rw [total, show (fresh limits boundary).totalBytes = 0 from rfl,
    Nat.zero_add] at fed
  exact fed

end MultipartParser

/-! ## Moves -/

namespace UploadState

/-- The transaction may still be committed or aborted. -/
def Open (state : UploadState) : Prop :=
  state = .streaming ∨ state = .bodyComplete

/-- The transaction is over. -/
def Terminal (state : UploadState) : Prop :=
  state = .committed ∨ state = .aborted

theorem Open.not_terminal {state : UploadState} (unsettled : state.Open) :
    ¬ (state = .aborted ∨ state = .committed) := by
  rcases unsettled with rfl | rfl <;> decide

theorem open_or_terminal {state : UploadState} (live : state ≠ .idle) :
    state.Open ∨ state.Terminal := by
  cases state with
  | idle => exact absurd rfl live
  | streaming => exact .inl (.inl rfl)
  | bodyComplete => exact .inl (.inr rfl)
  | committed => exact .inr (.inl rfl)
  | aborted => exact .inr (.inr rfl)

end UploadState

/-- An upload of the same transaction. -/
structure Upload.Same (upload upload' : Upload Application) : Prop where
  begun : upload'.begun = upload.begun
  transaction : upload'.transaction = upload.transaction

namespace UploadWorld

/-- What a call can do. -/
inductive Move : UploadWorld Application → UploadWorld Application → Prop where
  | stay (world : UploadWorld Application) : Move world world
  /-- The application refuses the transaction. -/
  | refuses {outside : Outside Application} {number : Nat} (status : Status)
      (application : Application) (refused : status ≠ .ok) :
      Move ⟨none, outside, number⟩
        ⟨none, outside.call number (.begins status) application, number + 1⟩
  | begins {outside : Outside Application} {number : Nat}
      {upload : Upload Application} (application : Application)
      (begun : upload.begun = true) (transaction : upload.transaction = number)
      (streaming : upload.state = .streaming)
      (tracks : upload.multipart.Tracks upload.written) :
      Move ⟨none, outside, number⟩
        ⟨some upload, outside.call number (.begins .ok) application, number + 1⟩
  /-- The sink is written to. -/
  | reads {outside outside' : Outside Application} {number : Nat}
      {upload upload' : Upload Application}
      (streaming : upload.state = .streaming) (same : upload.Same upload')
      (streaming' : upload'.state = .streaming)
      (tracks : upload.multipart.Tracks upload.written →
        upload'.multipart.Tracks upload'.written)
      (events : List UploadEvent)
      (parts : ∀ event ∈ events, event.isPart = true)
      (log : outside'.log =
        outside.log ++ events.map ((upload.transaction, ·))) :
      Move ⟨some upload, outside, number⟩ ⟨some upload', outside', number⟩
  /-- The body is closed behind its last delimiter. -/
  | completes {outside : Outside Application} {number : Nat}
      {upload upload' : Upload Application}
      (streaming : upload.state = .streaming) (same : upload.Same upload')
      (complete : upload'.state = .bodyComplete)
      (parsed : upload.multipart.Tracks upload.written →
        UploadEvent.Parsed upload'.multipart.boundary upload'.written ∧
          MultipartParser.Complete upload'.multipart.boundary upload'.written) :
      Move ⟨some upload, outside, number⟩ ⟨some upload', outside, number⟩
  | aborts {outside : Outside Application} {number : Nat}
      {upload upload' : Upload Application} (unsettled : upload.state.Open)
      (same : upload.Same upload') (aborted : upload'.state = .aborted)
      (status : WebStatus) (nativeStatus : Status) (application : Application) :
      Move ⟨some upload, outside, number⟩
        ⟨some upload', outside.call upload.transaction
          (.aborts status nativeStatus) application, number⟩
  | commits {outside : Outside Application} {number : Nat}
      {upload upload' : Upload Application}
      (complete : upload.state = .bodyComplete) (same : upload.Same upload')
      (committed : upload'.state = .committed) (request : RequestView)
      (token : Option Bytes)
      (checked : csrfMethodUnsafe request.method = true →
        UploadEvent.Authentic request token) (application : Application) :
      Move ⟨some upload, outside, number⟩
        ⟨some upload', outside.call upload.transaction
          (.commits upload.multipart.boundary upload.written request token .ok)
          application, number⟩
  /-- The application refuses to commit, and the transaction is aborted. -/
  | commitFails {outside : Outside Application} {number : Nat}
      {upload upload' : Upload Application}
      (complete : upload.state = .bodyComplete) (same : upload.Same upload')
      (aborted : upload'.state = .aborted) (request : RequestView)
      (token : Option Bytes)
      (checked : csrfMethodUnsafe request.method = true →
        UploadEvent.Authentic request token) (refusal : Status)
      (refused : refusal ≠ .ok) (status : WebStatus) (nativeStatus : Status)
      (application application' : Application) :
      Move ⟨some upload, outside, number⟩
        ⟨some upload', (outside.call upload.transaction
          (.commits upload.multipart.boundary upload.written request token
            refusal) application).call upload.transaction
          (.aborts status nativeStatus) application', number⟩
  | frees {outside : Outside Application} {number : Nat}
      {upload : Upload Application} (terminal : upload.state.Terminal) :
      Move ⟨some upload, outside, number⟩ ⟨none, outside, number⟩

/-- The memory holds an upload which was begun. -/
def Ready (world : UploadWorld Application) : Prop :=
  ∀ upload ∈ world.upload, upload.begun = true ∧ upload.state ≠ .idle

end UploadWorld

open UploadWorld

/-- A call on the upload of a world, with this outcome, is a move. -/
abbrev Upload.Moves (upload : Upload Application)
    (outside : Outside Application) (number : Nat)
    (after : Upload Application × Outside Application) : Prop :=
  Move ⟨some upload, outside, number⟩
    ((⟨some upload, outside, number⟩ : UploadWorld Application).put after)

/-! ### Aborts -/

variable {upload : Upload Application}

theorem Upload.abortOnce_spec (unsettled : upload.state.Open)
    (begun : upload.begun = true)
    (outside : Outside Application) (status : WebStatus)
    (nativeStatus : Status) :
    ∃ upload' status' application,
      upload.abortOnce outside status nativeStatus =
          (upload',
            outside.call upload.transaction (.aborts status' nativeStatus)
              application) ∧
        upload.Same upload' ∧ upload'.state = .aborted := by
  unfold abortOnce
  rw [if_neg unsettled.not_terminal]
  dsimp only
  rw [if_pos begun]
  exact ⟨_, _, _, rfl, ⟨rfl, rfl⟩, rfl⟩

theorem Upload.abortOnce_moves (unsettled : upload.state.Open)
    (begun : upload.begun = true)
    (outside : Outside Application) (number : Nat) (status : WebStatus)
    (nativeStatus : Status) :
    upload.Moves outside number
      (upload.abortOnce outside status nativeStatus) := by
  obtain ⟨upload', status', application, result, same, aborted⟩ :=
    abortOnce_spec unsettled begun outside status nativeStatus
  rw [result]
  exact .aborts unsettled same aborted status' nativeStatus application

/-! ### Writing and closing -/

theorem Upload.sinkWrite_moves (upload : Upload Application)
    (outside : Outside Application) (number : Nat) (data : Bytes) :
    upload.Moves outside number (upload.sinkWrite outside data).2 := by
  have reads := MultipartParser.feed_respects respects_reads upload.multipart
    (upload, outside) data
  unfold sinkWrite
  dsimp only
  split_ifs with idle
  · exact .stay _
  all_goals
    have streaming : upload.state = .streaming := Classical.not_not.mp idle
    obtain ⟨events, log, parts⟩ := reads.log
    refine .reads streaming ⟨reads.begun, reads.transaction⟩
      (reads.state.trans streaming) ?_ events parts log
    intro tracks
    dsimp only
    rw [reads.written]
    exact tracks.feed (upload, outside) data

/-- Closing an upload which was begun is a move. -/
theorem Upload.close_moves (begun : upload.begun = true)
    (outside : Outside Application)
    (number : Nat) (status : Status) :
    upload.Moves outside number
      (upload.close outside status) := by
  unfold close
  by_cases streaming : upload.state = .streaming
  · rw [if_neg (not_not_intro streaming)]
    by_cases broken : status = .ok
    · rw [if_neg (not_not_intro broken)]
      dsimp only
      split_ifs with failed unfinished
      · exact abortOnce_moves (.inl streaming) begun outside number _ _
      · obtain ⟨upload', status', application, result, same, aborted⟩ :=
          @abortOnce_spec _
            { upload with multipart := upload.multipart.finish.2 }
            (.inl streaming) begun outside upload.multipart.finish.1.status
            upload.multipart.finish.1.nativeStatus
        rw [result]
        exact .aborts (.inl streaming)
          ⟨same.begun, same.transaction⟩ aborted status' _ application
      · exact .completes streaming ⟨rfl, rfl⟩ rfl
          fun tracks => tracks.finish (Classical.not_not.mp unfinished)
    · rw [if_pos broken]
      exact abortOnce_moves (.inl streaming) begun outside number _ _
  · rw [if_pos streaming]
    exact .stay _

/-! ### Finalization -/

/-- A request which passes the check brings the token of its session, when its
method needs one. -/
theorem csrfValidateToken_ok {request : RequestView} {token : Option Bytes}
    (checked : (csrfValidateToken request token).status = .ok)
    (needed : csrfMethodUnsafe request.method = true) :
    UploadEvent.Authentic request token := by
  unfold csrfValidateToken at checked
  rw [needed, if_neg (by decide)] at checked
  split at checked
  · cases checked
  · cases checked
  · rename_i expected token found
    split_ifs at checked with short differs
    exact ⟨expected, found, congrArg some (Classical.not_not.mp differs).symm⟩

theorem Upload.commit_moves (begun : upload.begun = true)
    (complete : upload.state = .bodyComplete) (outside : Outside Application)
    (number : Nat)
    {request : RequestView}
    (checked : csrfMethodUnsafe request.method = true →
      UploadEvent.Authentic request (upload.candidate request)) :
    upload.Moves outside number (upload.commit outside request).2 := by
  unfold commit
  dsimp only
  split_ifs with refused
  · obtain ⟨upload', status', application, result, same, aborted⟩ :=
      abortOnce_spec (.inr complete) begun (outside.call upload.transaction
        (.commits upload.multipart.boundary upload.written request
          (upload.candidate request)
          (upload.callbacks.commit outside.application).1)
        (upload.callbacks.commit outside.application).2) .upload
        (upload.callbacks.commit outside.application).1
    dsimp only
    rw [result]
    exact .commitFails complete same aborted request _ checked _ refused status'
      _ _ application
  have agreed := Classical.not_not.mp refused
  rw [agreed]
  refine .commits complete ?_ ?_ request _ checked _
  · exact ⟨rfl, rfl⟩
  · rfl

theorem Upload.finalize_moves (begun : upload.begun = true)
    (outside : Outside Application)
    (number : Nat) (request : Option RequestView)
    (validation : Option Validation) :
    upload.Moves outside number
      (upload.finalize outside request validation).2 := by
  unfold finalize
  dsimp only
  split
  · exact .stay _
  rename_i request
  split_ifs with mismatch aborted unready unchecked
  · exact .stay _
  · exact .stay _
  · exact .stay _
  all_goals have complete : upload.state = .bodyComplete :=
    Classical.not_not.mp unready
  · exact abortOnce_moves (.inr complete) begun outside number _ _
  have checked := csrfValidateToken_ok (Classical.not_not.mp unchecked)
  cases validation with
  | none => exact commit_moves begun complete outside number checked
  | some validation =>
    dsimp only
    split_ifs
    · exact abortOnce_moves (.inr complete) begun outside number _ _
    · exact abortOnce_moves (.inr complete) begun outside number _ _
    · exact commit_moves begun complete outside number checked

theorem Upload.abort_moves (begun : upload.begun = true)
    (outside : Outside Application)
    (number : Nat) (status : WebStatus) (nativeStatus : Status) :
    upload.Moves outside number
      (upload.abort outside status nativeStatus).2 := by
  unfold abort
  split_ifs with misused unsettled
  · exact .stay _
  · have live : upload.state ≠ .idle := fun idle => misused (.inr (.inl idle))
    rcases UploadState.open_or_terminal live with opened | committed | aborted
    · exact abortOnce_moves opened begun outside number status nativeStatus
    · exact absurd (.inr (.inr committed)) misused
    · exact absurd aborted unsettled
  · exact .stay _

/-! ### Opening -/

namespace UploadWorld

variable {outside : Outside Application} {number transactions transaction : Nat}
  {world : UploadWorld Application} {log : List (Nat × UploadEvent)}

theorem begin_moves {parser : MultipartParser} (tracks : parser.Tracks [])
    (request : RequestView)
    (callbacks : UploadCallbacks Application) :
    Move ⟨none, outside, number⟩
      ((⟨none, outside, number⟩ : UploadWorld Application).begin_ request parser
        callbacks).2 := by
  unfold begin_
  dsimp only
  split_ifs with refused
  · exact .refuses _ _ refused
  · have agreed := Classical.not_not.mp refused
    rw [agreed]
    exact .begins _ rfl rfl rfl tracks

theorem open_moves (world : UploadWorld Application)
    (request : Option RequestView)
    (limits : Option MultipartLimits)
    (callbacks : Option (UploadCallbacks Application))
    (sink : Bool) :
    Move world (world.open_ request limits callbacks sink).2 := by
  obtain ⟨upload, outside, number⟩ := world
  unfold open_
  split
  · rename_i request limits callbacks free
    dsimp only at free
    subst free
    split
    · exact .stay _
    · split
      · exact .stay _
      · rename_i parser opened
        exact begin_moves (MultipartParser.tracks_init opened) request callbacks
  · exact .stay _

theorem perform_moves (ready : world.Ready) (call : UploadCall Application) :
    Move world (world.perform call).2 := by
  obtain ⟨upload, outside, number⟩ := world
  cases upload with
  | none =>
    cases call with
    | open_ request limits callbacks sink =>
      exact open_moves _ request limits callbacks sink
    | _ => exact .stay _
  | some upload =>
    obtain ⟨begun, live⟩ := ready upload rfl
    cases call with
    | open_ request limits callbacks sink =>
      exact open_moves _ request limits callbacks sink
    | write data => exact upload.sinkWrite_moves outside number data
    | close status => exact Upload.close_moves begun outside number status
    | finalize request validation =>
      exact Upload.finalize_moves begun outside number request validation
    | abort status nativeStatus =>
      exact Upload.abort_moves begun outside number status nativeStatus
    | reset =>
      change Move _ (reset _ upload).2
      unfold reset
      split_ifs with unsettled
      · exact .stay _
      refine .frees ?_
      rcases UploadState.open_or_terminal live with opened | terminal
      · exact absurd
          ⟨fun h => opened.not_terminal (.inr h),
            fun h => opened.not_terminal (.inl h)⟩ unsettled
      · exact terminal

/-! ## Runs -/

/-- The log of a world: a transaction ends once, and every commit has what it
needs. -/
structure Ledger (transactions : Nat) (log : List (Nat × UploadEvent)) :
    Prop where
  labels : ∀ entry ∈ log, entry.1 < transactions
  once : ∀ transaction, abortsOf transaction log + commitsOf transaction log ≤ 1
  founded : ∀ entry ∈ log, entry.2.Founded

/-- How often a transaction has ended. -/
abbrev endsOf (transaction : Nat) (log : List (Nat × UploadEvent)) : Nat :=
  abortsOf transaction log + commitsOf transaction log

/-- A number which is not given out has no end. -/
theorem Ledger.unused (ledger : Ledger transactions log)
    (above : transactions ≤ number) :
    endsOf number log = 0 := by
  have other : ∀ entry ∈ log, entry.1 ≠ number := by
    intro entry member same
    exact absurd (ledger.labels entry member) (by omega)
  have none : ∀ ends : UploadEvent → Bool,
      log.countP (fun entry => entry.1 = number && ends entry.2) = 0 := by
    intro ends
    rw [List.countP_eq_zero]
    intro entry member
    rw [decide_eq_false (other entry member)]
    exact Bool.false_ne_true
  exact Nat.add_eq_zero_iff.mpr ⟨none _, none _⟩

/-- Events which end nothing keep the ledger. -/
theorem Ledger.append {transactions' : Nat} (ledger : Ledger transactions log)
    (grows : transactions ≤ transactions') (label : transaction < transactions')
    {events : List UploadEvent} (plain : ∀ event ∈ events,
      event.isAbort = false ∧ event.isCommit = false ∧ event.Founded) :
    Ledger transactions' (log ++ events.map ((transaction, ·))) ∧ ∀ number,
      endsOf number (log ++ events.map ((transaction, ·))) =
        endsOf number log := by
  have none : ∀ (number : Nat) (ends : UploadEvent → Bool),
    (∀ event ∈ events, ends event = false) →
      (events.map ((transaction, ·))).countP
        (fun entry => entry.1 = number && ends entry.2) = 0 := by
    intro number ends unended
    rw [List.countP_eq_zero]
    intro entry member
    obtain ⟨event, among, rfl⟩ := List.mem_map.mp member
    rw [unended event among, Bool.and_false]
    exact Bool.false_ne_true
  have same number :
      endsOf number (log ++ events.map ((transaction, ·))) =
        endsOf number log := by
    unfold endsOf abortsOf commitsOf
    rw [List.countP_append, List.countP_append,
      none number _ fun event member => (plain event member).1,
      none number _ fun event member => (plain event member).2.1]
    rfl
  refine ⟨⟨List.forall_mem_append.mpr ⟨?_, ?_⟩, ?_,
    List.forall_mem_append.mpr ⟨?_, ?_⟩⟩, same⟩
  · exact fun entry member => (ledger.labels entry member).trans_le grows
  · exact List.forall_mem_map.mpr fun _ _ => label
  · intro number
    exact (same number).trans_le (ledger.once number)
  · exact ledger.founded
  · exact List.forall_mem_map.mpr fun event among => (plain event among).2.2

/-- The first end of a transaction keeps the ledger. -/
theorem Ledger.ends (ledger : Ledger transactions log)
    (label : transaction < transactions)
    (unended : endsOf transaction log = 0) {event : UploadEvent}
    (single : event.isAbort = false ∨ event.isCommit = false)
    (founded : event.Founded) :
    Ledger transactions (log ++ [(transaction, event)]) := by
  refine ⟨List.forall_mem_append.mpr
    ⟨ledger.labels, List.forall_mem_singleton.mpr label⟩, ?_,
    List.forall_mem_append.mpr
      ⟨ledger.founded, List.forall_mem_singleton.mpr founded⟩⟩
  · intro number
    have before := ledger.once number
    unfold endsOf abortsOf commitsOf at *
    rw [List.countP_append, List.countP_append, List.countP_singleton,
      List.countP_singleton]
    by_cases same : transaction = number
    · subst same
      rcases single with single | single
      all_goals
        rw [single, Bool.and_false, if_neg Bool.false_ne_true]
        split_ifs <;> omega
    · rw [decide_eq_false same, Bool.false_and, Bool.false_and,
        if_neg Bool.false_ne_true]
      omega

/-- The upload in the memory, against the log. -/
structure Current (transactions : Nat) (log : List (Nat × UploadEvent))
    (upload : Upload Application) : Prop where
  begun : upload.begun = true
  live : upload.state ≠ .idle
  label : upload.transaction < transactions
  unended : upload.state.Open →
    abortsOf upload.transaction log + commitsOf upload.transaction log = 0
  tracks : upload.state = .streaming → upload.multipart.Tracks upload.written
  parsed : upload.state = .bodyComplete →
    UploadEvent.Parsed upload.multipart.boundary upload.written ∧
      MultipartParser.Complete upload.multipart.boundary upload.written

/-- What holds of every world. -/
structure Sound (world : UploadWorld Application) : Prop where
  ledger : Ledger world.transactions world.outside.log
  current : ∀ upload ∈ world.upload,
    Current world.transactions world.outside.log upload

/-- A sound world is ready for the next call. -/
theorem Sound.ready (sound : world.Sound) : world.Ready :=
  fun upload found =>
    ⟨(sound.current upload found).begun, (sound.current upload found).live⟩

theorem sound_init (application : Application) : (init application).Sound where
  ledger :=
    ⟨List.forall_mem_nil _, fun _ => Nat.zero_le _, List.forall_mem_nil _⟩
  current := by simp [init]

theorem Current.of_terminal {upload : Upload Application}
    (begun : upload.begun = true)
    (label : upload.transaction < transactions)
    (terminal : upload.state.Terminal) :
    Current transactions log upload := by
  have closed : ¬ upload.state.Open :=
    fun opened => opened.not_terminal terminal.symm
  refine ⟨begun, ?_, label, fun opened => absurd opened closed,
    fun streaming => absurd (.inl streaming) closed,
    fun complete => absurd (.inr complete) closed⟩
  rcases terminal with state | state <;> simp [state]

/-- A call of the application keeps the ledger. -/
theorem Ledger.call {transactions' : Nat}
    (ledger : Ledger transactions outside.log)
    (grows : transactions ≤ transactions') (label : transaction < transactions')
    (event : UploadEvent) (abort : event.isAbort = false)
    (commit : event.isCommit = false)
    (founded : event.Founded) (application : Application) :
    Ledger transactions' (outside.call transaction event application).log ∧
      ∀ number,
      endsOf number (outside.call transaction event application).log =
        endsOf number outside.log :=
  @Ledger.append _ _ _ _ ledger grows label [event]
    (List.forall_mem_singleton.mpr ⟨abort, commit, founded⟩)

/-- A move keeps the world sound. -/
theorem Move.sound {world' : UploadWorld Application} (move : Move world world')
    (sound : world.Sound) : world'.Sound := by
  obtain ⟨ledger, current⟩ := sound
  cases move with
  | stay => exact ⟨ledger, current⟩
  | @refuses outside number status application refused =>
    obtain ⟨ledger', -⟩ := ledger.call (Nat.le_succ number)
      (Nat.lt_succ_self number) (.begins status) rfl rfl trivial application
    exact ⟨ledger', by simp⟩
  | @begins outside number upload application begun transaction streaming
      tracks =>
      obtain ⟨ledger', same⟩ := ledger.call (Nat.le_succ number)
        (Nat.lt_succ_self number) (.begins .ok) rfl rfl trivial application
      refine ⟨ledger', ?_⟩
      rintro _ ⟨⟩
      refine ⟨begun, by simp [streaming], ?_, ?_,
        fun _ => tracks, fun complete => ?_⟩
      · rw [transaction]
        exact Nat.lt_succ_self number
      · intro _
        rw [transaction]
        exact (same number).trans (ledger.unused le_rfl)
      · rw [streaming] at complete
        cases complete
  | @reads outside outside' number upload upload' streaming same streaming'
      tracks events parts log =>
      obtain ⟨begun, live, label, unended, tracked, -⟩ := current upload rfl
      have plain : ∀ event ∈ events,
          event.isAbort = false ∧ event.isCommit = false ∧ event.Founded := by
        intro event member
        have part := parts event member
        cases event with
        | partBegins | partData | partEnds => exact ⟨rfl, rfl, trivial⟩
        | begins | commits | aborts => cases part
      obtain ⟨ledger', counts⟩ := ledger.append le_rfl label plain
      dsimp only at ledger' counts
      rw [← log] at ledger' counts
      refine ⟨ledger', ?_⟩
      rintro _ ⟨⟩
      refine ⟨same.begun.trans begun, by simp [streaming'],
        same.transaction.trans_lt label, ?_,
        fun _ => tracks (tracked streaming), fun complete => ?_⟩
      · intro _
        rw [same.transaction]
        exact (counts _).trans (unended (.inl streaming))
      · rw [streaming'] at complete
        cases complete
  | @completes outside number upload upload' streaming same complete parsed =>
    obtain ⟨begun, live, label, unended, tracked, -⟩ := current upload rfl
    refine ⟨ledger, ?_⟩
    rintro _ ⟨⟩
    refine ⟨same.begun.trans begun, by simp [complete],
      same.transaction.trans_lt label, ?_, fun streaming' => ?_,
      fun _ => parsed (tracked streaming)⟩
    · intro _
      rw [same.transaction]
      exact unended (.inl streaming)
    · rw [complete] at streaming'
      cases streaming'
  | @aborts outside number upload upload' unsettled same aborted status
      nativeStatus application =>
      obtain ⟨begun, live, label, unended, -, -⟩ := current upload rfl
      refine ⟨ledger.ends label (unended unsettled) (.inr rfl) trivial, ?_⟩
      rintro _ ⟨⟩
      exact .of_terminal (same.begun.trans begun)
        (same.transaction.trans_lt label) (.inr aborted)
  | @commits outside number upload upload' complete same committed request token
      checked application =>
      obtain ⟨begun, live, label, unended, -, parsed⟩ := current upload rfl
      refine ⟨ledger.ends label (unended (.inr complete)) (.inl rfl)
        ⟨(parsed complete).1, (parsed complete).2, checked⟩, ?_⟩
      rintro _ ⟨⟩
      exact .of_terminal (same.begun.trans begun)
        (same.transaction.trans_lt label) (.inl committed)
  | @commitFails outside number upload upload' complete same aborted request
      token checked refusal refused status nativeStatus application
      application' =>
      obtain ⟨begun, live, label, unended, -, parsed⟩ := current upload rfl
      obtain ⟨ledger', counts⟩ := ledger.call le_rfl label
        (.commits upload.multipart.boundary upload.written request token
          refusal) rfl (decide_eq_false refused)
        ⟨(parsed complete).1, (parsed complete).2, checked⟩ application
      refine ⟨ledger'.ends label
        ((counts _).trans (unended (.inr complete))) (.inr rfl) trivial, ?_⟩
      rintro _ ⟨⟩
      exact .of_terminal (same.begun.trans begun)
        (same.transaction.trans_lt label) (.inr aborted)
  | frees terminal => exact ⟨ledger, by simp⟩

/-- A call keeps the world sound. -/
theorem Sound.perform (sound : world.Sound) (call : UploadCall Application) :
    (world.perform call).2.Sound :=
  (perform_moves sound.ready call).sound sound

/-- Calls keep the world sound. -/
theorem Sound.run (sound : world.Sound)
    (calls : List (UploadCall Application)) :
    (world.run calls).Sound := by
  induction calls generalizing world with
  | nil => exact sound
  | cons call calls ih => exact ih (sound.perform call)

/-! ## After a reset -/

/-- What was added to a log belongs to transactions from `number` on. -/
structure Since (number : Nat) (log : List (Nat × UploadEvent))
    (world : UploadWorld Application) : Prop where
  added : ∃ entries, world.outside.log = log ++ entries ∧ ∀ entry ∈ entries,
    number ≤ entry.1
  counter : number ≤ world.transactions
  current : ∀ upload ∈ world.upload, number ≤ upload.transaction

/-- Events of a later transaction are added behind the log. -/
theorem Since.append {number : Nat} {log log' : List (Nat × UploadEvent)}
    {events : List UploadEvent} {transaction : Nat}
    (added : ∃ entries, log' = log ++ entries ∧ ∀ entry ∈ entries,
      number ≤ entry.1)
    (later : number ≤ transaction) :
    ∃ entries, log' ++ events.map ((transaction, ·)) = log ++ entries ∧
      ∀ entry ∈ entries, number ≤ entry.1 := by
  obtain ⟨entries, rfl, above⟩ := added
  refine ⟨entries ++ events.map ((transaction, ·)), List.append_assoc .., ?_⟩
  exact List.forall_mem_append.mpr
    ⟨above, List.forall_mem_map.mpr fun _ _ => later⟩

/-- A call for a later transaction is added behind the log. -/
theorem Since.call
    (added : ∃ entries, outside.log = log ++ entries ∧ ∀ entry ∈ entries,
      number ≤ entry.1)
    (later : number ≤ transaction) (event : UploadEvent)
    (application : Application) :
    ∃ entries, (outside.call transaction event application).log =
      log ++ entries ∧
        ∀ entry ∈ entries, number ≤ entry.1 :=
  @Since.append number log outside.log [event] transaction added later

/-- An upload which stays the same keeps its number. -/
theorem Since.same {upload upload' : Upload Application}
    (same : upload.Same upload')
    (current : ∀ other ∈ some upload, number ≤ other.transaction) :
    ∀ other ∈ some upload', number ≤ other.transaction := by
  rintro _ ⟨⟩
  exact (current upload rfl).trans same.transaction.ge

/-- A move adds events of later transactions only. -/
theorem Move.since {world' : UploadWorld Application} (move : Move world world')
    (since : Since number log world) : Since number log world' := by
  obtain ⟨added, counter, current⟩ := since
  cases move with
  | stay => exact ⟨added, counter, current⟩
  | refuses =>
    exact ⟨Since.call added counter _ _, counter.trans (Nat.le_succ _), by simp⟩
  | begins _ _ transaction =>
    refine ⟨Since.call added counter _ _, counter.trans (Nat.le_succ _), ?_⟩
    rintro _ ⟨⟩
    exact counter.trans transaction.ge
  | reads _ same _ _ _ _ grown =>
    refine ⟨?_, counter, Since.same same current⟩
    rw [grown]
    exact Since.append added (current _ rfl)
  | completes _ same => exact ⟨added, counter, Since.same same current⟩
  | aborts _ same | commits _ same =>
    exact ⟨Since.call added (current _ rfl) _ _, counter,
      Since.same same current⟩
  | commitFails _ same =>
    exact ⟨Since.call (Since.call added (current _ rfl) _ _)
      (current _ rfl) _ _, counter,
      Since.same same current⟩
  | frees => exact ⟨added, counter, by simp⟩

/-- Calls add events of later transactions only. -/
theorem Since.run (since : Since number log world) (sound : world.Sound)
    (calls : List (UploadCall Application)) :
    Since number log (world.run calls) := by
  induction calls generalizing world with
  | nil => exact since
  | cons call calls ih =>
    exact ih ((perform_moves sound.ready call).since since) (sound.perform call)

theorem reset_ok {error : WebError}
    (returned : (world.perform .reset).1 = .web error)
    (agreed : error.status = .ok) :
    ∃ upload, world.upload = some upload ∧ upload.state.Terminal ∧
      (world.perform .reset).2 = { world with upload := none } := by
  obtain ⟨upload, outside, number⟩ := world
  cases upload with
  | none =>
    cases returned
    cases agreed
  | some upload =>
    change UploadReturn.web (reset _ upload).1 = _ at returned
    change ∃ _, _ ∧ _ ∧ (reset _ upload).2 = _
    unfold reset at returned ⊢
    split_ifs at returned ⊢ with unsettled
    · cases returned
      cases agreed
    · refine ⟨upload, rfl, ?_, rfl⟩
      by_contra other
      exact unsettled ⟨fun h => other (.inl h), fun h => other (.inr h)⟩

/-- **Uploads.**  Whatever is called in whatever order, and whatever the
application answers, a transaction is aborted or committed at most once; a
commit is asked for only when the body was read behind its closing delimiter
without an error and, if the method of the request is one of `POST`, `PUT`,
`PATCH` and `DELETE`, the token of the request is the one of its session; and a
reset which succeeds finds the transaction over, and the transaction makes no
callback afterwards. -/
theorem upload_commits_or_aborts_once (application : Application)
    (calls : List (UploadCall Application)) :
    let world := (init application).run calls
    (∀ transaction, abortsOf transaction world.outside.log +
        commitsOf transaction world.outside.log ≤ 1) ∧
      (∀ transaction boundary written request token status,
        (transaction, .commits boundary written request token status) ∈
          world.outside.log →
          UploadEvent.Parsed boundary written ∧
            MultipartParser.Complete boundary written ∧
            (csrfMethodUnsafe request.method = true →
              UploadEvent.Authentic request token)) ∧
      ∀ error, (world.perform .reset).1 = .web error → error.status = .ok →
        ∃ upload, world.upload = some upload ∧ upload.state.Terminal ∧ ∀ later,
        ∃ entries,
            ((world.perform .reset).2.run later).outside.log =
              world.outside.log ++ entries ∧
              ∀ entry ∈ entries, entry.1 ≠ upload.transaction := by
  intro world
  have sound : world.Sound := (sound_init application).run calls
  refine ⟨sound.ledger.once, ?_, ?_⟩
  · intro transaction boundary written request token status member
    exact sound.ledger.founded _ member
  intro error returned agreed
  obtain ⟨upload, found, terminal, freed⟩ := reset_ok returned agreed
  refine ⟨upload, found, terminal, fun later => ?_⟩
  have since : Since world.transactions world.outside.log
      (world.perform .reset).2 := by
    rw [freed]
    exact ⟨⟨[], (List.append_nil _).symm, List.forall_mem_nil _⟩, le_rfl,
      by simp⟩
  obtain ⟨entries, grown, above⟩ :=
    (since.run (sound.perform .reset) later).added
  refine ⟨entries, grown, fun entry member same => ?_⟩
  have label := (sound.current upload found).label
  have labelled := above entry member
  omega

/-- An application which agrees to everything. -/
def obliging : UploadCallbacks Unit where
  begin_ _ application := (.ok, application)
  partBegin _ application := (.ok, application)
  partData _ application := (.ok, application)
  partEnd application := (.ok, application)
  commit application := (.ok, application)
  abort _ _ application := application

/-- A token. -/
def plainToken : CString where
  bytes := List.replicate 64 97
  unterminated := by decide

/-- A session with this token. -/
def plainSession : SessionContext where
  record := some 0
  recordGeneration := 1
  id := []
  snapshot := [some ⟨csrfSessionKey, plainToken, 0⟩]
  created := false
  invalidated := false
  dirty := false
  session := 0
  changes := 0

/-- A request with a form in its body. -/
def formRequest (method : Method) (session : Option SessionContext) :
    RequestView where
  method := method
  headers := [(⟨ascii "Content-Type", by decide⟩, plainType)]
  session := session
  bodyStreamed := true
  bodySinkUser := true

/-- A form with the token. -/
def tokenForm : Bytes :=
  encodeForm (ascii "b") [⟨⟨ascii "_csrf", none, none⟩, plainToken.bytes⟩]

/-- The calls for a request up to its commit. -/
def formCalls (body : Bytes) : List (UploadCall Unit) :=
  [.open_ (some request) (some .default) (some obliging) true, .write body,
    .close .ok, .finalize (some request) none]

/-- A commit which brings the token of its session, and the reset after it. -/
theorem upload_commits_or_aborts_once_post :
    let request := formRequest .post (some plainSession)
    let world := (init ()).run (formCalls request tokenForm)
    (0, .commits (ascii "b") tokenForm request (some plainToken.bytes) .ok) ∈
      world.outside.log ∧
      UploadEvent.Authentic request (some plainToken.bytes) ∧
      ∃ upload, world.upload = some upload ∧ upload.state.Terminal := by
  have committed : (0, .commits (ascii "b") tokenForm
      (formRequest .post (some plainSession)) (some plainToken.bytes) .ok) ∈
        ((init ()).run (formCalls (formRequest .post (some plainSession))
          tokenForm)).outside.log := by
    decide +kernel
  have freed : (((init ()).run (formCalls (formRequest .post
      (some plainSession)) tokenForm)).perform .reset).1 =
        .web (Upload.report .ok .ok "") := by
    decide +kernel
  obtain ⟨-, founded, settled⟩ := upload_commits_or_aborts_once ()
    (formCalls (formRequest .post (some plainSession)) tokenForm)
  obtain ⟨-, -, authentic⟩ := founded _ _ _ _ _ _ committed
  obtain ⟨upload, found, terminal, -⟩ := settled _ freed rfl
  exact ⟨committed, authentic rfl, upload, found, terminal⟩

/-- A `GET` request needs no token, and not even a session. -/
theorem upload_commits_without_token :
    (0, .commits (ascii "b") (encodeForm (ascii "b") fieldAndFile)
        (formRequest .get none) none .ok) ∈
        ((init ()).run (formCalls (formRequest .get none)
          (encodeForm (ascii "b") fieldAndFile))).outside.log ∧
      ¬ UploadEvent.Authentic (formRequest .get none) none := by
  refine ⟨by decide +kernel, ?_⟩
  rintro ⟨expected, -, impossible⟩
  cases impossible

end UploadWorld

end Chttp.App

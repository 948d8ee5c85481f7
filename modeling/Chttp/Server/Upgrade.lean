import Chttp.Lib.Decimal
import Chttp.Server.Request
import Chttp.Server.Stream

/-!
# Upgrades behind pipelined requests

While a receive callback runs, the responses to the requests in it are queued
in the outbound buffer of their connection; they are handed to the transport
when it returns.  The head which accepts a WebSocket upgrade has a serializer
of its own, which writes from the front of the same buffer.
-/

namespace Chttp.Server

open Lib

variable (config : QueueConfig) (out : Outgoing)

/-! ## Serializers -/

/-- `chttp_header`, without the terminators. -/
structure HeaderLine where
  name : Bytes
  value : Bytes
  deriving DecidableEq, Repr

/-- A header as both serializers write it. -/
def HeaderLine.pieces (header : HeaderLine) : List Bytes :=
  [header.name, ascii ": ", header.value, crlf]

/-- `chttp_server_output_append` and `chttp_server_websocket_append`. -/
def outputAppend (output : Bytes) (size : Nat) (data : Bytes) :
    Option (Bytes × Nat) :=
  if output.length < size ∨ output.length - size < data.length then
    none
  else
    some (overlay output size data, size + data.length)

/-- Append one piece after another, up to the first which does not fit. -/
def appendPieces (output : Bytes) (size : Nat) :
    List Bytes → Option (Bytes × Nat)
  | [] => some (output, size)
  | data :: pieces =>
    match outputAppend output size data with
    | none => none
    | some (output, size) => appendPieces output size pieces

/-- `chttp_server_reason`. -/
def reason : Nat → String
  | 100 => "Continue"
  | 200 => "OK"
  | 201 => "Created"
  | 202 => "Accepted"
  | 204 => "No Content"
  | 205 => "Reset Content"
  | 304 => "Not Modified"
  | 206 => "Partial Content"
  | 412 => "Precondition Failed"
  | 416 => "Range Not Satisfiable"
  | 400 => "Bad Request"
  | 401 => "Unauthorized"
  | 404 => "Not Found"
  | 405 => "Method Not Allowed"
  | 413 => "Content Too Large"
  | 414 => "URI Too Long"
  | 417 => "Expectation Failed"
  | 426 => "Upgrade Required"
  | 431 => "Request Header Fields Too Large"
  | 500 => "Internal Server Error"
  | 501 => "Not Implemented"
  | 505 => "HTTP Version Not Supported"
  | _ => "Unknown"

/-- What is read of a builder which holds its body. -/
structure BufferedResponse where
  statusCode : Nat
  headers : List HeaderLine
  body : Bytes
  deriving DecidableEq, Repr

/-- What is read of the request. -/
structure PipelinedRequest extends RequestLine where
  method : Method
  deriving DecidableEq, Repr

/-- The lines behind the headers. -/
def closingLines (request : PipelinedRequest) (response : BufferedResponse) :
    Bytes :=
  let connection := ascii "Connection: " ++
    ascii (if request.protocolKeepAlive then "keep-alive" else "close") ++
      crlf ++ crlf
  if response.statusCode = 204 ∨ response.statusCode = 304 then
    connection
  else
    ascii "Content-Length: " ++ decimalOctets response.body.length ++ crlf ++
      connection

/-- What `chttp_server_response_serialize` appends.  The text of the date is
empty where the application has set one; no line fills the 128 octets of the
buffer it is printed to. -/
def responsePieces (request : PipelinedRequest) (response : BufferedResponse)
    (date : Bytes) : List Bytes :=
  [ascii "HTTP/" ++ decimalOctets request.httpMajor ++ ascii "." ++
      decimalOctets request.httpMinor ++ ascii " " ++
        decimalOctets response.statusCode ++
      ascii " " ++ ascii (reason response.statusCode) ++ crlf] ++
    (if date = [] then [] else [ascii "Date: " ++ date ++ crlf]) ++
    response.headers.flatMap HeaderLine.pieces ++
    [closingLines request response,
      if request.method = .head then [] else response.body]

/-- What `chttp_server_websocket_handshake_serialize` appends. -/
def handshakePieces (headers : List HeaderLine) (accept : Bytes) : List Bytes :=
  [ascii "HTTP/1.1 101 Switching Protocols\r\n"] ++
    headers.flatMap HeaderLine.pieces ++
    [ascii
        "Upgrade: websocket\r\nConnection: Upgrade\r\nSec-WebSocket-Accept: ",
      accept,
      crlf ++ crlf]

/-- `CHTTP_SERVER_CONTINUE_RESPONSE`. -/
def continueResponse : Bytes := ascii "HTTP/1.1 100 Continue\r\n\r\n"

/-! ## Callbacks of the parser -/

/-- The limits of a server which a queued response meets. -/
structure QueueConfig where
  stream : StreamConfig
  maxResponseWireBytes : Nat
  deriving DecidableEq, Repr

/-- What the parser reports of requests with buffered responses, with what the
application and the memory make of it. -/
inductive ParserCall where
  /-- A head expects `100 Continue`. -/
  | expects (memory : Memory)
  /-- A request is complete, and is answered. -/
  | completes (request : PipelinedRequest) (response : BufferedResponse)
      (date : Bytes)
      (memory : Memory)
  deriving DecidableEq, Repr

/-- A request for an upgrade, which its route accepts. -/
structure UpgradeCall where
  /-- The headers which the application has set. -/
  headers : List HeaderLine
  accept : Bytes
  memory : Memory
  deriving DecidableEq, Repr

/-- The outbound buffer has room for any response. -/
def QueueConfig.HasRoom : Prop :=
  out.outboundSize ≤ config.stream.maxSendBytes ∧
    config.maxResponseWireBytes ≤ config.stream.maxSendBytes - out.outboundSize

instance (config : QueueConfig) (out : Outgoing) :
    Decidable (config.HasRoom out) :=
  inferInstanceAs (Decidable (_ ∧ _))

/-- Reserve room in the outbound buffer, and write to it from some offset. -/
def writeOutbound (required offset : Nat) (memory : Memory)
    (pieces : List Bytes) :
    Status × Outgoing :=
  match reserveOutbound config.stream out required memory with
  | (.ok, out) =>
    match appendPieces out.outbound offset pieces with
    -- The size is set back; what was written behind it is not read.
    | none => (.emsgsize, out)
    | some (outbound, size) =>
      (.ok, { out with outbound := outbound, outboundSize := size })
  | (status, out) => (status, out)

/-- `chttp_server_on_continue`, and `chttp_server_on_request` behind the
handler. -/
def ParserCall.perform : ParserCall → Status × Outgoing
  | .expects memory =>
    writeOutbound config out (out.outboundSize + continueResponse.length)
      out.outboundSize memory
      [continueResponse]
  | .completes request response date memory =>
    if out.closeAfterWrite then
      (.eshutdown, out)
    else if ¬config.HasRoom out then
      (.enobufs, out)
    else
      match writeOutbound config out
        (out.outboundSize + config.maxResponseWireBytes)
        out.outboundSize memory (responsePieces request response date) with
      | (.ok, out) =>
        (.ok, { out with
          closeAfterWrite :=
            out.closeAfterWrite || !request.protocolKeepAlive })
      | failed => failed

/-- `chttp_server_websocket_upgrade`, past the checks of the request and with
a route which accepts. -/
def websocketUpgrade (call : UpgradeCall) : Status × Outgoing :=
  if ¬config.HasRoom out then
    (.enobufs, out)
  else
    writeOutbound config out
      (out.outboundSize + config.maxResponseWireBytes) 0 call.memory
      (handshakePieces call.headers call.accept)

/-- What the parser reports in one receive callback, up to an error. -/
def receiveCalls (config : QueueConfig) :
    Outgoing → List ParserCall → Status × Outgoing
  | out, [] => (.ok, out)
  | out, call :: calls =>
    match call.perform config out with
    | (.ok, out) => receiveCalls config out calls
    | failed => failed

/-- Receive callbacks without an error.  After each, what is queued is handed
to the transport; the next one follows when it is sent and the buffer is
released. -/
def serve (config : QueueConfig) :
    Outgoing → List (List ParserCall) → Option (Bytes × Outgoing)
  | out, [] => some ([], out)
  | out, calls :: callbacks =>
    if out.closeAfterWrite then
      none
    else
      match receiveCalls config out calls with
      | (.ok, queued) =>
        match serve config { queued with outbound := [], outboundSize := 0 }
          callbacks with
        | none => none
        | some (sent, last) => some (queued.ready ++ sent, last)
      | _ => none

/-- The receive callback in which the parser reports the upgrade, behind which
it stops. -/
def receiveUpgrade (calls : List ParserCall) (upgrade : UpgradeCall) :
    Status × Outgoing :=
  if out.closeAfterWrite then
    (.eshutdown, out)
  else
    match receiveCalls config out calls with
    | (.ok, out) => websocketUpgrade config out upgrade
    | failed => failed

/-! ## What is queued -/

/-- What a call is answered with on the wire. -/
def ParserCall.wire : ParserCall → Bytes
  | .expects _ => continueResponse
  | .completes request response date _ =>
    (responsePieces request response date).flatten

/-- The head of an accepted upgrade. -/
def UpgradeCall.wire (call : UpgradeCall) : Bytes :=
  (handshakePieces call.headers call.accept).flatten

theorem ParserCall.wire_ne_nil (call : ParserCall) : call.wire ≠ [] := by
  cases call with
  | expects memory => exact List.cons_ne_nil _ _
  | completes request response date memory => exact List.cons_ne_nil _ _

theorem appendPieces_spec {pieces : List Bytes} {output output' : Bytes}
    {size size' : Nat}
    (appended : appendPieces output size pieces = some (output', size'))
    (inside : size ≤ output.length) :
    output'.take size' = output.take size ++ pieces.flatten ∧
      size' ≤ output'.length := by
  induction pieces generalizing output size with
  | nil =>
    cases appended
    exact ⟨(List.append_nil _).symm, inside⟩
  | cons data pieces ih =>
    rw [appendPieces, outputAppend] at appended
    by_cases full : output.length < size ∨ output.length - size < data.length
    · rw [if_pos full] at appended
      cases appended
    rw [if_neg full] at appended
    have fits : size + data.length ≤ output.length := by omega
    obtain ⟨taken, within⟩ := ih appended ((length_overlay fits).symm ▸ fits)
    refine ⟨?_, within⟩
    rw [taken, take_overlay_behind data rfl inside, List.flatten_cons,
      List.append_assoc]

variable {config : QueueConfig} {out out' : Outgoing}

theorem writeOutbound_spec {required offset : Nat} {memory : Memory}
    {pieces : List Bytes}
    (written : writeOutbound config out required offset memory pieces =
      (.ok, out'))
    (inside : offset ≤ out.outbound.length) :
    out'.ready = out.outbound.take offset ++ pieces.flatten ∧
      out'.outboundSize ≤ out'.outbound.length := by
  obtain ⟨outbound, reserved, begins, -⟩ :=
    reserveOutbound_spec config.stream out required memory
  unfold writeOutbound at written
  split at written
  · rename_i grown granted
    rw [granted] at reserved
    cases reserved
    split at written
    · cases written
    rename_i output size appended
    cases written
    obtain ⟨taken, within⟩ :=
      appendPieces_spec appended (inside.trans begins.length_le)
    refine ⟨?_, within⟩
    obtain ⟨more, rfl⟩ := begins
    rw [Outgoing.ready, taken, List.take_append_of_le_length inside]
  · rename_i refused _
    cases written
    exact absurd rfl refused

theorem ParserCall.perform_spec {call : ParserCall}
    (performed : call.perform config out = (.ok, out'))
    (inside : out.outboundSize ≤ out.outbound.length) :
    out'.ready = out.ready ++ call.wire ∧
      out'.outboundSize ≤ out'.outbound.length := by
  cases call with
  | expects memory =>
    obtain ⟨ready, within⟩ := writeOutbound_spec performed inside
    exact ⟨ready.trans (by rw [List.flatten_singleton]; rfl), within⟩
  | completes request response date memory =>
    unfold ParserCall.perform at performed
    dsimp only at performed
    split at performed
    · cases performed
    split at performed
    · cases performed
    split at performed
    · rename_i queued written
      cases performed
      obtain ⟨ready, within⟩ := writeOutbound_spec written inside
      exact ⟨ready, within⟩
    · rename_i failed
      exact absurd performed (failed _)

theorem receiveCalls_spec {calls : List ParserCall}
    (received : receiveCalls config out calls = (.ok, out'))
    (inside : out.outboundSize ≤ out.outbound.length) :
    out'.ready = out.ready ++ calls.flatMap ParserCall.wire := by
  induction calls generalizing out with
  | nil =>
    cases received
    exact (List.append_nil _).symm
  | cons call calls ih =>
    rw [receiveCalls] at received
    split at received
    · rename_i queued performed
      obtain ⟨ready, within⟩ := call.perform_spec performed inside
      rw [ih received within, ready, List.flatMap_cons, List.append_assoc]
    · rename_i failed
      exact absurd received (failed _)

theorem serve_spec {callbacks : List (List ParserCall)} {sent : Bytes}
    {last : Outgoing}
    (served : serve config out callbacks = some (sent, last))
    (idle : out.outboundSize = 0) :
    sent = callbacks.flatten.flatMap ParserCall.wire ∧
      last.outboundSize = 0 := by
  induction callbacks generalizing out sent with
  | nil =>
    cases served
    exact ⟨rfl, idle⟩
  | cons calls callbacks ih =>
    rw [serve] at served
    split at served
    · cases served
    split at served
    · rename_i queued received
      split at served
      · cases served
      rename_i rest final further
      cases served
      obtain ⟨behind, ends⟩ := ih further rfl
      have ready := receiveCalls_spec received (idle.trans_le (Nat.zero_le _))
      have empty : out.ready = [] := by
        rw [Outgoing.ready, idle, List.take_zero]
      rw [empty, List.nil_append] at ready
      refine ⟨?_, ends⟩
      rw [behind, ready, List.flatten_cons, List.flatMap_append]
    · cases served

theorem receiveUpgrade_spec {calls : List ParserCall} {upgrade : UpgradeCall}
    (accepted : receiveUpgrade config out calls upgrade = (.ok, out')) :
    out'.ready = upgrade.wire := by
  unfold receiveUpgrade at accepted
  split at accepted
  · cases accepted
  split at accepted
  · unfold websocketUpgrade at accepted
    split at accepted
    · cases accepted
    · exact (writeOutbound_spec accepted (Nat.zero_le _)).1
  · rename_i failed
    exact absurd accepted (failed _)

/-- The transport gets the earlier responses and the head of the upgrade in
order if and only if nothing was queued in the callback of the upgrade. -/
theorem upgrade_keeps_queued_iff {waiting last : Outgoing}
    {callbacks : List (List ParserCall)}
    {sent : Bytes} {calls : List ParserCall} {upgrade : UpgradeCall}
    (idle : out.outboundSize = 0)
    (served : serve config out callbacks = some (sent, waiting))
    (accepted : receiveUpgrade config waiting calls upgrade = (.ok, last)) :
    sent ++ last.ready = (callbacks.flatten ++ calls).flatMap ParserCall.wire ++
      upgrade.wire ↔
      calls = [] := by
  rw [(serve_spec served idle).1, receiveUpgrade_spec accepted,
    List.flatMap_append,
    List.append_assoc, List.append_cancel_left_eq, List.self_eq_append_left,
    List.flatMap_eq_nil_iff]
  constructor
  · intro empty
    rw [List.eq_nil_iff_forall_not_mem]
    exact fun call member => call.wire_ne_nil (empty call member)
  · rintro rfl call member
    cases member

/-- A server with room for a few responses. -/
def smallQueue : QueueConfig where
  stream := { maxSendBytes := 1024, streamChunkBytes := 256 }
  maxResponseWireBytes := 256

/-- A connection which has queued nothing. -/
def quietConnection : Outgoing where
  builder :=
    { sourceEnabled := false
      contentLength := none
      sourceTransferred := 0
      sourceCapacity := 0
      replied := false
      deferred := false }
  responseStreaming := false
  responseSourceChunked := false
  responseCloseAfterStream := false
  closeAfterWrite := false
  outbound := []
  outboundSize := 0

/-- A request which is answered with two octets. -/
def plainCall : ParserCall :=
  .completes
    { httpMajor := 1, httpMinor := 1, protocolKeepAlive := true,
      method := .get }
    { statusCode := 200, headers := [], body := ascii "hi" } []
    ⟨true, true, true, .ok⟩

/-- An upgrade with a subprotocol. -/
def chatUpgrade : UpgradeCall where
  headers := [{ name := ascii "Sec-WebSocket-Protocol", value := ascii "chat" }]
  accept := ascii "s3pPLMBiTxaQ9kYGzzhZRbK+xOo="
  memory := ⟨true, true, true, .ok⟩

theorem upgrade_keeps_queued_apart :
    serve smallQueue quietConnection [[plainCall]] =
      some (plainCall.wire, quietConnection) ∧
      (receiveUpgrade smallQueue quietConnection [] chatUpgrade).1 = .ok ∧
      plainCall.wire ++
          (receiveUpgrade smallQueue quietConnection [] chatUpgrade).2.ready =
        ([[plainCall]].flatten ++ []).flatMap ParserCall.wire ++
          chatUpgrade.wire := by
  have served : serve smallQueue quietConnection [[plainCall]] =
      some (plainCall.wire, quietConnection) := by
    decide +kernel
  have accepted :
      (receiveUpgrade smallQueue quietConnection [] chatUpgrade).1 = .ok := by
    decide +kernel
  rcases outcome : receiveUpgrade smallQueue quietConnection [] chatUpgrade with
    ⟨status, last⟩
  rw [outcome] at accepted
  obtain rfl : status = .ok := accepted
  exact ⟨served, rfl, (upgrade_keeps_queued_iff rfl served outcome).mpr rfl⟩

theorem upgrade_overwrites_queued :
    (receiveUpgrade smallQueue quietConnection [plainCall] chatUpgrade).1 =
      .ok ∧
      (receiveUpgrade smallQueue quietConnection [plainCall]
        chatUpgrade).2.ready ≠
        plainCall.wire ++ chatUpgrade.wire := by
  decide +kernel

end Chttp.Server

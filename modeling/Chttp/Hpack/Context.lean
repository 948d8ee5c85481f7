import Chttp.Hpack.DynamicTable
import Chttp.Hpack.Huffman

/-!
# The HPACK context: header block encoding and decoding

A context holds one table for each direction.  The encoder prefers the static
table over its dynamic table, announces table limit changes at the start of
the next block, and never uses the Huffman code.  The decoder calls back once
for every field; the callback runs while the context is being used, so the
decoder is written over an arbitrary state which contains the context.
-/

namespace Chttp.Hpack

open Lib

/-! ## The static table -/

/-- `s_hpack_static`: RFC 7541 Appendix A. -/
def staticTable : List Entry :=
  [(":authority", ""), (":method", "GET"), (":method", "POST"), (":path", "/"),
    (":path", "/index.html"),
    (":scheme", "http"),
    (":scheme", "https"),
    (":status", "200"),
    (":status", "204"),
    (":status", "206"),
    (":status", "304"),
    (":status", "400"),
    (":status", "404"),
    (":status", "500"),
    ("accept-charset", ""),
    ("accept-encoding", "gzip, deflate"),
    ("accept-language", ""),
    ("accept-ranges", ""),
    ("accept", ""),
    ("access-control-allow-origin", ""),
    ("age", ""),
    ("allow", ""),
    ("authorization", ""),
    ("cache-control", ""),
    ("content-disposition", ""),
    ("content-encoding", ""),
    ("content-language", ""),
    ("content-length", ""),
    ("content-location", ""),
    ("content-range", ""),
    ("content-type", ""),
    ("cookie", ""),
    ("date", ""),
    ("etag", ""),
    ("expect", ""),
    ("expires", ""),
    ("from", ""),
    ("host", ""),
    ("if-match", ""),
    ("if-modified-since", ""),
    ("if-none-match", ""),
    ("if-range", ""),
    ("if-unmodified-since", ""),
    ("last-modified", ""),
    ("link", ""),
    ("location", ""),
    ("max-forwards", ""),
    ("proxy-authenticate", ""),
    ("proxy-authorization", ""),
    ("range", ""),
    ("referer", ""),
    ("refresh", ""),
    ("retry-after", ""),
    ("server", ""),
    ("set-cookie", ""),
    ("strict-transport-security", ""),
    ("transfer-encoding", ""),
    ("user-agent", ""),
    ("vary", ""),
    ("via", ""),
    ("www-authenticate", "")
  ].map fun field => { name := ascii field.1, value := ascii field.2 }

/-- `static_find_full`: the index of the first match, or zero. -/
def staticFindFull (name value : Bytes) : Nat :=
  match
    staticTable.findIdx? fun entry =>
      entry.name == name && entry.value == value
  with
  | none => 0
  | some index => index + 1

/-- `static_find_name`. -/
def staticFindName (name : Bytes) : Nat :=
  match staticTable.findIdx? fun entry => entry.name == name with
  | none => 0
  | some index => index + 1

/-! ## The context -/

/-- `chttp_h2_hpack_config`. -/
structure HpackConfig where
  maxDynamicTableBytes : Nat
  maxHeaderBlockBytes : Nat
  maxStringBytes : Nat
deriving DecidableEq

/-- `chttp_h2_hpack`; the Huffman tree is the constant `huffTree`. -/
structure HpackContext where
  encoder : DynTable
  decoder : DynTable
  decoderMaxSize : Nat
  encoderPendingMinSize : Nat
  encoderPendingFinalSize : Nat
  encoderSizeUpdatePending : Bool
  maxDynamicTableBytes : Nat
  maxHeaderBlockBytes : Nat
  maxStringBytes : Nat
deriving DecidableEq

/-- `chttp_h2_hpack_create`. -/
def HpackContext.create (config : HpackConfig) : Option HpackContext :=
  if uint32Max < config.maxDynamicTableBytes ∨
      config.maxHeaderBlockBytes = 0 ∨ config.maxStringBytes = 0 then
    none
  else
    some
      { encoder := dynTableCreate config.maxDynamicTableBytes
        decoder := dynTableCreate config.maxDynamicTableBytes
        decoderMaxSize := config.maxDynamicTableBytes
        encoderPendingMinSize := 0
        encoderPendingFinalSize := 0
        encoderSizeUpdatePending := false
        maxDynamicTableBytes := config.maxDynamicTableBytes
        maxHeaderBlockBytes := config.maxHeaderBlockBytes
        maxStringBytes := config.maxStringBytes }

variable (hpack : HpackContext)

/-- `chttp_h2_hpack_encoder_set_max_size`; `none` is the value `-1`. -/
def encoderSetMaxSize (maxSize : Nat) : Option HpackContext :=
  if hpack.maxDynamicTableBytes < maxSize then
    none
  else
    let hpack :=
      if maxSize ≠ hpack.encoder.maxSize then
        { hpack with
          encoderPendingMinSize :=
            if hpack.encoderSizeUpdatePending = false ∨
              maxSize < hpack.encoderPendingMinSize then
              maxSize
            else
              hpack.encoderPendingMinSize
          encoderPendingFinalSize := maxSize
          encoderSizeUpdatePending := true }
      else
        hpack
    some { hpack with encoder := dynTableSetMaxSize hpack.encoder maxSize }

/-- `chttp_h2_hpack_decoder_set_max_size`. -/
def decoderSetMaxSize (maxSize : Nat) : Option HpackContext :=
  if hpack.maxDynamicTableBytes < maxSize then
    none
  else
    some
      { hpack with
        decoder := dynTableSetMaxSize hpack.decoder maxSize,
        decoderMaxSize := maxSize }

/-- `chttp_h2_hpack_decoder_table_size_update`. -/
def decoderTableSizeUpdate (newSize : Nat) : Option HpackContext :=
  if hpack.decoderMaxSize < newSize then
    none
  else
    some { hpack with decoder := dynTableSetMaxSize hpack.decoder newSize }

/-- `table_get`: the static and the decoder's dynamic table combined. -/
def tableGet (index : Nat) : Option Entry :=
  if index = 0 then
    none
  else if index ≤ 61 then
    staticTable[index - 1]?
  else
    hpack.decoder.entries[index - 62]?

/-! ## Encoding -/

variable (out : Buffer)

/-- An integer whose first octet also carries a flag. -/
def putFlaggedInteger (value prefixBits : Nat) (flag : UInt8) : Option Buffer :=
  match integerEncode out value prefixBits with
  | none => none
  | some written => some (written.orByte out.size flag)

/-- `hpack_put_table_size_update`. -/
def putTableSizeUpdate (size : Nat) : Option Buffer :=
  putFlaggedInteger out (size % 2 ^ 32) 5 0x20

/-- The table limit updates at the start of `chttp_h2_hpack_encode`. -/
def putPendingUpdates : Option Buffer :=
  if hpack.encoderSizeUpdatePending then
    match putTableSizeUpdate out hpack.encoderPendingMinSize with
    | none => none
    | some out =>
      if hpack.encoderPendingFinalSize ≠ hpack.encoderPendingMinSize then
        putTableSizeUpdate out hpack.encoderPendingFinalSize
      else
        some out
  else
    some out

/-- The name, unless it is indexed, and the value of a literal field. -/
def putLiteralStrings (nameIndex : Nat) (field : Entry) : Option Buffer :=
  if nameIndex = 0 then
    match putString out field.name false with
    | none => none
    | some out => putString out field.value false
  else
    putString out field.value false

/-- The index of a whole field: the static table first, zero if absent. -/
def fieldIndex (field : Entry) : Nat :=
  if staticFindFull field.name field.value = 0 then
    dynTableFind hpack.encoder field.name field.value false
  else
    staticFindFull field.name field.value

/-- The index of a name: the static table first, zero if absent. -/
def nameIndex (name : Bytes) : Nat :=
  if staticFindName name = 0 then
    dynTableFind hpack.encoder name [] true
  else
    staticFindName name

/-- One round of the field loop of `chttp_h2_hpack_encode`. -/
def encodeField (field : Entry) : Option (HpackContext × Buffer) :=
  if hpack.maxStringBytes < field.name.length ∨
    hpack.maxStringBytes < field.value.length then
    none
  else if fieldIndex hpack field ≠ 0 then
    match putFlaggedInteger out (fieldIndex hpack field) 7 0x80 with
    | none => none
    | some out => some (hpack, out)
  else if hpack.encoder.maxSize = 0 then
    match integerEncode out (nameIndex hpack field.name) 4 with
    | none => none
    | some out =>
      match putLiteralStrings out (nameIndex hpack field.name) field with
      | none => none
      | some out => some (hpack, out)
  else
    match putFlaggedInteger out (nameIndex hpack field.name) 6 0x40 with
    | none => none
    | some out =>
      match putLiteralStrings out (nameIndex hpack field.name) field with
      | none => none
      | some out =>
        match dynTableAdd hpack.encoder field.name field.value with
        | none => none
        | some encoder => some ({ hpack with encoder }, out)

/-- The field loop; a failed field keeps what earlier fields have changed. -/
def encodeFields : HpackContext → Buffer → List Entry →
    HpackContext × Option Buffer
  | hpack, out, [] => (hpack, some out)
  | hpack, out, field :: fields =>
    match encodeField hpack out field with
    | none => (hpack, none)
    | some (hpack, out) => encodeFields hpack out fields

/--
`chttp_h2_hpack_encode`: the context afterwards and, unless the call returned
`-1`, the output buffer.
-/
def encode (fields : List Entry) : HpackContext × Option Buffer :=
  if hpack.maxHeaderBlockBytes < out.maxCapacity then
    (hpack, none)
  else
    match putPendingUpdates hpack out with
    | none => (hpack, none)
    | some out =>
      encodeFields { hpack with encoderSizeUpdatePending := false } out
        fields

/-! ## Decoding -/

/-- The return values of `chttp_h2_hpack_decode`. -/
inductive DecodeStatus where
  /-- `0` -/
  | ok
  /-- `-1` -/
  | malformed
  /-- `-2` -/
  | listTooLarge
  /-- `-3` -/
  | aborted
deriving DecidableEq

/-- `hpack_add_header_list_size`; `none` is the return value `-1`. -/
def addHeaderListSize (listSize nameSize valueSize maxSize : Nat) :
    Option Nat :=
  if maxSize = 0 then
    some listSize
  else if sizeMax - valueSize < nameSize ∨
    sizeMax - 32 < nameSize + valueSize then
    none
  else if maxSize < listSize ∨ maxSize - listSize <
    nameSize + valueSize + 32 then
    none
  else
    some (listSize + (nameSize + valueSize + 32))

/--
The state a block is decoded in: anything which contains the context, so that
the callback may change the rest of it.
-/
structure ContextIn (World : Type*) where
  get : World → HpackContext
  set : World → HpackContext → World

/-- `chttp_h2_hpack_callback`: the new state and the value returned. -/
abbrev FieldCallback (World : Type*) := World → Entry → World × Int

/-- The local variables of `chttp_h2_hpack_decode`. -/
structure DecodeState (World : Type*) where
  world : World
  listBytes : Nat
  tooLarge : Bool

/-- What one representation of a block leads to. -/
inductive DecodeStep (World : Type*) where
  | next (state : DecodeState World) (rest : Bytes)
  | stop (world : World) (status : DecodeStatus)

section Decoder

variable {World : Type*} (context : ContextIn World)
  (callback : FieldCallback World)
  (maxHeaderListSize : Nat) (state : DecodeState World) (input : Bytes)

/--
Account for a field and hand it to the callback, unless the list has become
too large.  The flag tells whether decoding goes on.
-/
def deliverField (field : Entry) : DecodeState World × Bool :=
  let counted :=
    if state.tooLarge then
      none
    else
      addHeaderListSize state.listBytes field.name.length field.value.length
        maxHeaderListSize
  match counted with
  | none => ({ state with tooLarge := true }, true)
  | some listBytes =>
    let result := callback state.world field
    ({ state with world := result.1, listBytes }, result.2 == 0)

/-- The strings of a literal whose name index has just been read. -/
def getLiteral (index : Nat) (input : Bytes) : Option (Entry × Bytes) :=
  if index = 0 then
    match getString hpack.maxStringBytes input with
    | none => none
    | some (name, rest) =>
      match getString hpack.maxStringBytes rest with
      | none => none
      | some (value, rest) => some ({ name, value }, rest)
  else
    match tableGet hpack index with
    | none => none
    | some entry =>
      match getString hpack.maxStringBytes input with
      | none => none
      | some (value, rest) => some ({ name := entry.name, value }, rest)

/-- Indexed header field. -/
def decodeIndexed : DecodeStep World :=
  match getInt 7 input with
  | none => .stop state.world .malformed
  | some (index, rest) =>
    match tableGet (context.get state.world) index with
    | none => .stop state.world .malformed
    | some field =>
      let delivered := deliverField callback maxHeaderListSize state field
      if delivered.2 then
        .next delivered.1 rest
      else
        .stop delivered.1.world .aborted

/-- Literal with incremental indexing. -/
def decodeIncremental : DecodeStep World :=
  match getInt 6 input with
  | none => .stop state.world .malformed
  | some (index, rest) =>
    match getLiteral (context.get state.world) index rest with
    | none => .stop state.world .malformed
    | some (field, rest) =>
      let delivered := deliverField callback maxHeaderListSize state field
      if delivered.2 then
        let world := delivered.1.world
        let hpack := context.get world
        match dynTableAdd hpack.decoder field.name field.value with
        | none => .stop world .malformed
        | some decoder =>
          .next
            { delivered.1 with
              world := context.set world { hpack with decoder } }
            rest
      else
        .stop delivered.1.world .aborted

/-- Dynamic table size update. -/
def decodeSizeUpdate : DecodeStep World :=
  match getInt 5 input with
  | none => .stop state.world .malformed
  | some (newSize, rest) =>
    match decoderTableSizeUpdate (context.get state.world) newSize with
    | none => .stop state.world .malformed
    | some hpack =>
      .next { state with world := context.set state.world hpack } rest

/-- Literal without indexing and literal never indexed. -/
def decodeLiteral : DecodeStep World :=
  match getInt 4 input with
  | none => .stop state.world .malformed
  | some (index, rest) =>
    match getLiteral (context.get state.world) index rest with
    | none => .stop state.world .malformed
    | some (field, rest) =>
      let delivered := deliverField callback maxHeaderListSize state field
      if delivered.2 then
        .next delivered.1 rest
      else
        .stop delivered.1.world .aborted

/-- One round of the loop of `chttp_h2_hpack_decode`. -/
def decodeOne (octet : UInt8) (input : Bytes) : DecodeStep World :=
  if octet.toNat &&& 0x80 ≠ 0 then
    decodeIndexed context callback maxHeaderListSize state input
  else if octet.toNat &&& 0x40 ≠ 0 then
    decodeIncremental context callback maxHeaderListSize state input
  else if octet.toNat &&& 0x20 ≠ 0 then
    decodeSizeUpdate context state input
  else
    decodeLiteral context callback maxHeaderListSize state input

/-- The loop; every round reads at least one octet of the input. -/
def decodeLoop : Nat → DecodeState World → Bytes → World × DecodeStatus
  | _, state, [] =>
    (state.world, if state.tooLarge then .listTooLarge else .ok)
  | 0, state, _ :: _ => (state.world, .malformed)
  | rounds + 1, state, octet :: input =>
    match
      decodeOne context callback maxHeaderListSize state octet (octet :: input)
    with
    | .stop world status => (world, status)
    | .next state rest => decodeLoop rounds state rest

/--
`chttp_h2_hpack_decode`: the state afterwards, the value returned and
`*consumed`, which is the whole input once the loop has ended.
-/
def decode (world : World) (input : Bytes) : World × DecodeStatus × Nat :=
  if (context.get world).maxHeaderBlockBytes < input.length then
    (world, .malformed, 0)
  else
    let result := decodeLoop context callback maxHeaderListSize input.length
        { world, listBytes := 0, tooLarge := false } input
    match result.2 with
    | .ok => (result.1, .ok, input.length)
    | .listTooLarge => (result.1, .listTooLarge, input.length)
    | status => (result.1, status, 0)

end Decoder

/-! ## Two runs of the decoder -/

/-- Contexts which a decoder cannot tell apart. -/
structure SameDecoder (left right : HpackContext) : Prop where
  decoder : left.decoder = right.decoder
  decoderMaxSize : left.decoderMaxSize = right.decoderMaxSize
  maxHeaderBlockBytes : left.maxHeaderBlockBytes = right.maxHeaderBlockBytes
  maxStringBytes : left.maxStringBytes = right.maxStringBytes

theorem SameDecoder.tableGet_eq {left right : HpackContext}
    (same : SameDecoder left right)
    (index : Nat) : tableGet left index = tableGet right index := by
  rw [tableGet, tableGet, same.decoder]

theorem SameDecoder.getLiteral_eq {left right : HpackContext}
    (same : SameDecoder left right)
    (index : Nat) (input : Bytes) :
    getLiteral left index input = getLiteral right index input := by
  rw [getLiteral, getLiteral, same.maxStringBytes, same.tableGet_eq]

/-- The verdict on a block which was read to its end. -/
def DecodeState.verdict {World : Type*} (state : DecodeState World) :
    DecodeStatus :=
  if state.tooLarge then .listTooLarge else .ok

/--
A relation between the states of two runs which decoding respects: related
states have the same decoder, storing a decoder keeps them related, and so does
delivering a field, after which both runs go on or both stop, the latter only
if callbacks refuse fields.
-/
structure DecodesAlong {Left Right : Type*} (leftContext : ContextIn Left)
    (rightContext : ContextIn Right) (leftField : FieldCallback Left)
    (rightField : FieldCallback Right) (leftLimit rightLimit : Nat)
    (states : DecodeState Left → DecodeState Right → Prop) (refuses : Prop) :
    Prop where
  get : ∀ left right, states left right →
    SameDecoder (leftContext.get left.world) (rightContext.get right.world)
  set : ∀ left right decoder, states left right → states
      { left with
        world :=
          leftContext.set left.world
            { leftContext.get left.world with decoder } }
      { right with
        world := rightContext.set right.world
          { rightContext.get right.world with decoder } }
  field : ∀ left right field, states left right →
    states (deliverField leftField leftLimit left field).1
        (deliverField rightField rightLimit right field).1 ∧
      (deliverField leftField leftLimit left field).2 =
        (deliverField rightField rightLimit right field).2 ∧
      ((deliverField rightField rightLimit right field).2 = false → refuses)

section Along

variable {Left Right : Type*} {leftContext : ContextIn Left}
  {rightContext : ContextIn Right} {leftField : FieldCallback Left}
  {rightField : FieldCallback Right} {leftLimit rightLimit : Nat}
  {states : DecodeState Left → DecodeState Right → Prop} {refuses : Prop}

/-- Rounds of the decoder with the same outcome. -/
inductive AlongSteps (states : DecodeState Left → DecodeState Right → Prop)
    (refuses : Prop) :
    DecodeStep Left → DecodeStep Right → Prop where
  | next {left : DecodeState Left} {right : DecodeState Right} {rest : Bytes} :
      states left right → AlongSteps states refuses (.next left rest)
      (.next right rest)
  | stop {left : DecodeState Left} {right : DecodeState Right}
      {status : DecodeStatus} :
      states left right → status = .malformed ∨ status = .aborted ∧ refuses →
        AlongSteps states refuses (.stop left.world status)
        (.stop right.world status)

/-- Both decoders refuse a malformed field. -/
theorem AlongSteps.malformed {left : DecodeState Left}
    {right : DecodeState Right}
    (related : states left right) :
    AlongSteps states refuses (.stop left.world .malformed)
      (.stop right.world .malformed) :=
  .stop related (.inl rfl)

namespace DecodesAlong

variable (along : DecodesAlong leftContext rightContext leftField rightField
  leftLimit rightLimit
  states refuses) {left : DecodeState Left} {right : DecodeState Right}
  (related : states left right)

include along related

theorem conclude (field : Entry) (rest : Bytes) :
    let leftDelivered := deliverField leftField leftLimit left field
    let rightDelivered := deliverField rightField rightLimit right field
    AlongSteps states refuses
      (if leftDelivered.2 then
        .next leftDelivered.1 rest
      else
        .stop leftDelivered.1.world .aborted)
      (if rightDelivered.2 then
        .next rightDelivered.1 rest
      else
        .stop rightDelivered.1.world .aborted) := by
  obtain ⟨delivered, goesOn, refused⟩ := along.field _ _ field related
  simp only
  rw [goesOn]
  split
  · exact .next delivered
  · rename_i stops
    exact .stop delivered
      (.inr ⟨rfl, refused (Bool.eq_false_of_not_eq_true stops)⟩)

theorem decodeIncremental (input : Bytes) :
    AlongSteps states refuses
      (decodeIncremental leftContext leftField leftLimit left input)
      (decodeIncremental rightContext rightField rightLimit right input) := by
  rw [Hpack.decodeIncremental, Hpack.decodeIncremental]
  cases getInt 6 input with
  | none => exact .malformed related
  | some read =>
    simp only
    rw [(along.get _ _ related).getLiteral_eq]
    cases getLiteral (rightContext.get right.world) read.1 read.2 with
    | none => exact .malformed related
    | some literal =>
      obtain ⟨delivered, goesOn, refused⟩ := along.field _ _ literal.1 related
      simp only
      rw [goesOn, (along.get _ _ delivered).decoder]
      split
      · cases dynTableAdd
            (rightContext.get
              (deliverField rightField rightLimit right
                literal.1).1.world).decoder
            literal.1.name literal.1.value with
        | none => exact .malformed delivered
        | some decoder => exact .next (along.set _ _ decoder delivered)
      · rename_i stops
        exact .stop delivered
          (.inr ⟨rfl, refused (Bool.eq_false_of_not_eq_true stops)⟩)

theorem decodeSizeUpdate (input : Bytes) :
    AlongSteps states refuses (decodeSizeUpdate leftContext left input)
      (decodeSizeUpdate rightContext right input) := by
  have same := along.get _ _ related
  rw [Hpack.decodeSizeUpdate, Hpack.decodeSizeUpdate]
  cases getInt 5 input with
  | none => exact .malformed related
  | some read =>
    simp only
    rw [decoderTableSizeUpdate, decoderTableSizeUpdate]
    by_cases refused : (rightContext.get right.world).decoderMaxSize < read.1
    · rw [if_pos (same.decoderMaxSize ▸ refused), if_pos refused]
      exact .malformed related
    · rw [if_neg (same.decoderMaxSize ▸ refused), if_neg refused, same.decoder]
      exact .next (along.set _ _ _ related)

theorem decodeOne (octet : UInt8) (input : Bytes) :
    AlongSteps states refuses
      (decodeOne leftContext leftField leftLimit left octet input)
      (decodeOne rightContext rightField rightLimit right octet input) := by
  have same := along.get _ _ related
  rw [Hpack.decodeOne, Hpack.decodeOne]
  split
  · rw [decodeIndexed, decodeIndexed]
    cases getInt 7 input with
    | none => exact .malformed related
    | some read =>
      simp only
      rw [same.tableGet_eq]
      cases tableGet (rightContext.get right.world) read.1 with
      | none => exact .malformed related
      | some field => exact along.conclude related field read.2
  split
  · exact along.decodeIncremental related input
  split
  · exact along.decodeSizeUpdate related input
  rw [decodeLiteral, decodeLiteral]
  cases getInt 4 input with
  | none => exact .malformed related
  | some read =>
    simp only
    rw [same.getLiteral_eq]
    cases getLiteral (rightContext.get right.world) read.1 read.2 with
    | none => exact .malformed related
    | some literal => exact along.conclude related literal.1 literal.2

/-- The loops of related decoders end alike. -/
theorem decodeLoop (rounds : Nat) (input : Bytes) :
    ∃ left' right', states left' right' ∧
    ((∃ status, (status = .malformed ∨ status = .aborted ∧ refuses) ∧
        decodeLoop leftContext leftField leftLimit rounds left input =
          (left'.world, status) ∧
        decodeLoop rightContext rightField rightLimit rounds right input =
          (right'.world, status)) ∨
      decodeLoop leftContext leftField leftLimit rounds left input =
          (left'.world, left'.verdict) ∧
        decodeLoop rightContext rightField rightLimit rounds right input =
          (right'.world, right'.verdict)) := by
  induction rounds generalizing left right input with
  | zero =>
    cases input with
    | nil => exact ⟨left, right, related, .inr ⟨rfl, rfl⟩⟩
    | cons octet input =>
      exact ⟨left, right, related, .inl ⟨_, .inl rfl, rfl, rfl⟩⟩
  | succ rounds induction =>
    cases input with
    | nil => exact ⟨left, right, related, .inr ⟨rfl, rfl⟩⟩
    | cons octet input =>
      have step := along.decodeOne related octet (octet :: input)
      simp only [Hpack.decodeLoop]
      generalize Hpack.decodeOne leftContext leftField leftLimit left octet _ =
        leftStep at step ⊢
      generalize Hpack.decodeOne rightContext rightField rightLimit right octet
        _ = rightStep
        at step ⊢
      cases step with
      | next related => exact induction related _
      | stop related failed => exact ⟨_, _, related, .inl ⟨_, failed, rfl, rfl⟩⟩

end DecodesAlong

/-- Two runs fail alike, or both read the block and judge their own lists. -/
theorem DecodesAlong.decode {left : Left} {right : Right}
    (along : DecodesAlong leftContext rightContext leftField rightField
      leftLimit rightLimit
      states refuses)
    (start : states { world := left, listBytes := 0, tooLarge := false }
      { world := right, listBytes := 0, tooLarge := false })
    (input : Bytes) : ∃ left' right', states left' right' ∧
    ((∃ status, (status = .malformed ∨ status = .aborted ∧ refuses) ∧
        decode leftContext leftField leftLimit left input =
          (left'.world, status, 0) ∧
        decode rightContext rightField rightLimit right input =
          (right'.world, status, 0)) ∨
      decode leftContext leftField leftLimit left input =
          (left'.world, left'.verdict, input.length) ∧
        decode rightContext rightField rightLimit right input =
          (right'.world, right'.verdict, input.length)) := by
  have same := (along.get _ _ start).maxHeaderBlockBytes
  simp only at same
  simp only [Hpack.decode, same]
  split
  · exact ⟨_, _, start, .inl ⟨_, .inl rfl, rfl, rfl⟩⟩
  obtain ⟨left', right', related,
      ⟨status, failed, leftEq, rightEq⟩ | ⟨leftEq, rightEq⟩⟩ :=
    along.decodeLoop start input.length input
  · refine ⟨left', right', related, .inl ⟨status, failed, ?_⟩⟩
    rw [leftEq, rightEq]
    rcases failed with rfl | ⟨rfl, -⟩ <;> exact ⟨rfl, rfl⟩
  · refine ⟨left', right', related, .inr ?_⟩
    rw [leftEq, rightEq, DecodeState.verdict, DecodeState.verdict]
    cases left'.tooLarge <;> cases right'.tooLarge <;> exact ⟨rfl, rfl⟩

end Along

/-- What storing a context and the callback keep, the decoder keeps. -/
theorem decode_keeps {World : Type*} {context : ContextIn World}
    {callback : FieldCallback World}
    {property : World → Prop} (limit : Nat)
    (keepsSet : ∀ world hpack, property world →
      property (context.set world hpack))
    (keepsCallback : ∀ world field, property world →
      property (callback world field).1)
    {world : World} (holds : property world) (input : Bytes) :
    property (decode context callback limit world input).1 := by
  have along : DecodesAlong context context callback callback limit limit
      (fun left right => left = right ∧ property left.world) True := by
    constructor
    · rintro state _ ⟨rfl, -⟩
      exact ⟨rfl, rfl, rfl, rfl⟩
    · rintro state _ decoder ⟨rfl, holds⟩
      exact ⟨rfl, keepsSet _ _ holds⟩
    · rintro state _ field ⟨rfl, holds⟩
      refine ⟨⟨rfl, ?_⟩, rfl, fun _ => trivial⟩
      rw [deliverField]
      simp only
      split
      · exact holds
      · exact keepsCallback _ _ holds
  obtain ⟨left, _, ⟨rfl, kept⟩, ⟨_, _, decoded, _⟩ | ⟨decoded, _⟩⟩ :=
    along.decode ⟨rfl, holds⟩ input
  · rwa [decoded]
  · rwa [decoded]

end Chttp.Hpack

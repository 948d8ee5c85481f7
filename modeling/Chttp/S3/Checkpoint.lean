import Chttp.Lib.Xml
import Chttp.Hpack.DynamicTable
import Chttp.Server.Buffer

/-!
# The checkpoint of a multipart upload

A multipart upload of a file keeps a checkpoint: a small document which says
what is uploaded to where, under which upload id, and which parts are there.
It is written after every part, in a builder whose capacity is computed from
the worst case of the escapes, and it is read, checked against the upload
which is to be resumed, and turned into the state of that upload again.

The library which reads documents is a parameter, of which only the laws of
`XmlReader` are known.  Texts are C strings and end in front of their zero;
`part_count` is the number of parts which are there.
-/

namespace Chttp.S3

open Lib
open Server (Status)
open Hpack (sizeMax)

/-! ## Clients and uploads -/

/-- `s3_addressing_style`. -/
inductive AddressingStyle where
  | path
  | virtualHosted
  deriving DecidableEq, Repr

/-- The number of an addressing style. -/
def AddressingStyle.number : AddressingStyle → Nat
  | .path => 0
  | .virtualHosted => 1

/-- `S3_MULTIPART_MAX_PARTS`. -/
def multipartMaxParts : Nat := 10000

/-- The fields of `s3_client_base` which a checkpoint depends on, as
`s3_client_config_normalize` leaves them. -/
structure Client where
  connectionUri : Bytes
  authority : Bytes
  region : Bytes
  addressingStyle : AddressingStyle
  maxXmlBytes : Nat
  maxXmlNodes : Nat
  maxMultipartParts : Nat
  maxXmlBytes_le : maxXmlBytes ≤ sizeMax
  maxXmlNodes_pos : 0 < maxXmlNodes
  maxMultipartParts_le : maxMultipartParts ≤ multipartMaxParts

/-- `s3_multipart_part_internal`, where the part is there. -/
structure Part where
  etag : Bytes
  size : Nat
  etag_ne : etag ≠ []
  size_le : size ≤ sizeMax

/-- `s3_multipart_impl`: the parts have a place for each number, and the key
is that of the headers for the encryption. -/
structure Upload where
  bucket : Bytes
  key : Bytes
  uploadId : Bytes
  parts : List (Option Part)
  customerKeyMd5 : Bytes
  uploadId_ne : uploadId ≠ []

/-- `part_count`. -/
def Upload.partCount (upload : Upload) : Nat :=
  upload.parts.countP Option.isSome

/-- The fields of `cmeta_fs_stat_t` of a file. -/
structure FileStat where
  size : Nat
  mtime : Nat
  ctime : Nat
  deriving DecidableEq, Repr

/-! ## Writing -/

/-- `s3_text_builder`. -/
structure Builder where
  capacity : Nat
  text : Bytes
  deriving DecidableEq, Repr

/-- `s3_text_builder_append`. -/
def Builder.append (builder : Builder) (data : Bytes) : Except Status Builder :=
  if sizeMax - builder.text.length < data.length ∨
      builder.capacity < builder.text.length + data.length then
    .error .emsgsize
  else
    .ok { builder with text := builder.text ++ data }

/-- How `s3_multipart_append_xml_text` writes an octet. -/
def xmlEscape (octet : UInt8) : Bytes :=
  if octet = 38 then ascii "&amp;"
  else if octet = 60 then ascii "&lt;"
  else if octet = 62 then ascii "&gt;"
  else if octet = 34 then ascii "&quot;"
  else if octet = 39 then ascii "&apos;"
  else [octet]

/-- `s3_multipart_append_xml_text`. -/
def Builder.appendXmlText (builder : Builder) : Bytes → Except Status Builder
  | [] => .ok builder
  | octet :: text => do
      let builder ← builder.append (xmlEscape octet)
      builder.appendXmlText text

/-- `s3_multipart_append_element`. -/
def Builder.appendElement (builder : Builder) (name value : Bytes) :
    Except Status Builder := do
  let builder ← builder.append [60]
  let builder ← builder.append name
  let builder ← builder.append [62]
  let builder ← builder.appendXmlText value
  let builder ← builder.append [60, 47]
  let builder ← builder.append name
  builder.append [62]

/-- Elements, one after the other. -/
def Builder.appendElements (builder : Builder) :
    List (Bytes × Bytes) → Except Status Builder
  | [] => .ok builder
  | (name, value) :: fields => do
      let builder ← builder.appendElement name value
      builder.appendElements fields

/-- `s3_multipart_checkpoint_root`. -/
def checkpointRoot : Bytes := ascii "S3MultipartResume"

/-- `s3_multipart_checkpoint_version`. -/
def checkpointVersion : Bytes := ascii "1"

variable (client : Client) (upload : Upload) (sourcePath : Bytes)
  (stat : FileStat) (partSize : Nat)

/-- What a checkpoint says of an upload, in the order of
`s3_multipart_checkpoint_xml`. -/
def checkpointFields : List (Bytes × Bytes) :=
  [(ascii "Version", checkpointVersion),
    (ascii "ConnectionUri", client.connectionUri),
    (ascii "Authority", client.authority),
    (ascii "Region", client.region),
    (ascii "AddressingStyle", decimalOctets client.addressingStyle.number),
    (ascii "Bucket", upload.bucket),
    (ascii "Key", upload.key),
    (ascii "SourcePath", sourcePath),
    (ascii "FileSize", decimalOctets stat.size),
    (ascii "FileMtime", decimalOctets stat.mtime),
    (ascii "FileCtime", decimalOctets stat.ctime),
    (ascii "PartSize", decimalOctets partSize),
    (ascii "SseCustomerKeyMd5", upload.customerKeyMd5),
    (ascii "UploadId", upload.uploadId)]

/-- What a checkpoint says of a part. -/
def partFields (number : Nat) (part : Part) : List (Bytes × Bytes) :=
  [(ascii "Number", decimalOctets number),
    (ascii "Size", decimalOctets part.size), (ascii "ETag", part.etag)]

/-- The loop of `s3_multipart_checkpoint_xml` over the parts. -/
def Builder.appendParts (builder : Builder) (number : Nat) :
    List (Option Part) → Except Status Builder
  | [] => .ok builder
  | none :: parts => builder.appendParts (number + 1) parts
  | some part :: parts => do
      let builder ← builder.append (ascii "<Part>")
      let builder ← builder.appendElements (partFields number part)
      let builder ← builder.append (ascii "</Part>")
      builder.appendParts (number + 1) parts

/-- `s3_checked_add`. -/
def checkedAdd (left right : Nat) : Except Status Nat :=
  if sizeMax - left < right then .error .erange else .ok (left + right)

/-- `s3_multipart_capacity_add_text`. -/
def capacityAddText (capacity : Nat) (text : Bytes) : Except Status Nat :=
  if sizeMax / 6 < text.length then .error .erange
  else checkedAdd capacity (text.length * 6)

/-- The first loop of `s3_multipart_checkpoint_capacity`. -/
def capacityAddTexts (capacity : Nat) : List Bytes → Except Status Nat
  | [] => .ok capacity
  | text :: texts => do
      let capacity ← capacityAddText capacity text
      capacityAddTexts capacity texts

/-- The second loop of `s3_multipart_checkpoint_capacity`. -/
def capacityAddParts (capacity : Nat) : List (Option Part) → Except Status Nat
  | [] => .ok capacity
  | none :: parts => capacityAddParts capacity parts
  | some part :: parts => do
      let capacity ← checkedAdd capacity 128
      let capacity ← capacityAddText capacity part.etag
      capacityAddParts capacity parts

/-- The texts of a checkpoint which are not numbers. -/
def checkpointTexts : List Bytes :=
  [client.connectionUri, client.authority, client.region, upload.bucket,
    upload.key, upload.uploadId, sourcePath, upload.customerKeyMd5]

/-- `s3_multipart_checkpoint_capacity`. -/
def checkpointCapacity : Except Status Nat := do
  let capacity ← capacityAddTexts 1024
    (checkpointTexts client upload sourcePath)
  let capacity ← capacityAddParts capacity upload.parts
  if client.maxXmlBytes < capacity then .error .emsgsize else .ok capacity

/-- `s3_text_builder_init`. -/
def Builder.init (capacity : Nat) : Except Status Builder :=
  if capacity = sizeMax then .error .einval else .ok ⟨capacity, []⟩

/-- `s3_multipart_checkpoint_xml`. -/
def checkpointXml : Except Status Bytes := do
  let capacity ← checkpointCapacity client upload sourcePath
  let builder ← Builder.init capacity
  let builder ← builder.append (ascii "<S3MultipartResume>")
  let builder ← builder.appendElements
    (checkpointFields client upload sourcePath stat partSize)
  let builder ← builder.append (ascii "<Parts>")
  let builder ← builder.appendParts 1 upload.parts
  let builder ← builder.append (ascii "</Parts></S3MultipartResume>")
  return builder.text

/-- `s3_multipart_checkpoint_store`: the new contents of the checkpoint.  The
file operations succeed together or leave the old checkpoint in its place. -/
def checkpointStore (written : Bool) : Except Status Bytes :=
  match checkpointXml client upload sourcePath stat partSize with
  | .error _ => .error .eio
  | .ok xml => if written then .ok xml else .error .eio

/-! ## Reading -/

/-- `s3_xml_numeric_entity`. -/
def numericEntity (entity : Bytes) : Option Nat :=
  let hexadecimal := (entity.drop 1).head? == some 120 ||
    (entity.drop 1).head? == some 88
  let base := if hexadecimal then 16 else 10
  let digits := if hexadecimal then entity.drop 2 else entity.drop 1
  if digits = [] then
    none
  else
    (go base 0 digits).bind fun value =>
      if Xml.codeValid value then some value else none
where
  /-- The loop of `s3_xml_numeric_entity`; the value has 32 bits. -/
  go (base : Nat) : Nat → Bytes → Option Nat
    | value, [] => some value
    | value, octet :: octets =>
      match Xml.digitIn base octet with
      | none => none
      | some digit =>
        if (2 ^ 32 - 1 - digit) / base < value then none
        else go base (value * base + digit) octets

/-- `s3_xml_entity_value`. -/
def entityValue (entity : Bytes) : Option Nat :=
  if entity = ascii "lt" then some 60
  else if entity = ascii "gt" then some 62
  else if entity = ascii "amp" then some 38
  else if entity = ascii "quot" then some 34
  else if entity = ascii "apos" then some 39
  else if entity.head? = some 35 then numericEntity entity
  else none

/-- The loop of `s3_xml_text_dup`; inside of a reference, its octets are
kept. -/
def decodeText : Option Bytes → Bytes → Option Bytes
  | none, [] => some []
  | some _, [] => none
  | none, octet :: rest =>
    if octet = 38 then decodeText (some []) rest
    else (decodeText none rest).map (octet :: ·)
  | some entity, octet :: rest =>
    if octet = 59 then
      match entityValue entity with
      | none => none
      | some value => (decodeText none rest).map (utf8Octets value ++ ·)
    else
      decodeText (some (entity ++ [octet])) rest

/-- `s3_xml_child`. -/
def xmlChild (parent : Xml) (name : Bytes) : Option Xml :=
  parent.children.find? fun child => child.name? == some name

/-- `s3_multipart_child_text`. -/
def childText (parent : Xml) (name : Bytes) : Except Status Bytes :=
  match xmlChild parent name with
  | none => .error .eproto
  | some child =>
    match decodeText none child.rawText with
    | none => .error .eproto
    | some text => .ok text

/-- The texts of several children. -/
def childTexts (parent : Xml) : List Bytes → Except Status (List Bytes)
  | [] => .ok []
  | name :: names => do
      let text ← childText parent name
      let texts ← childTexts parent names
      return text :: texts

/-- `s3_xml_status_map`, of a reader which has refused a document. -/
def xmlStatusMap : XmlError → Status
  | .allocationFailed => .enomem
  | .limitExceeded => .emsgsize
  | .invalidArgument => .einval
  | .malformed => .eproto

/-- The limits which `s3_xml_parse_root` gives to the reader. -/
def Client.xmlLimits : XmlLimits where
  maxInputBytes := client.maxXmlBytes
  maxNodes := client.maxXmlNodes
  maxAttributes := client.maxXmlNodes
  maxDepth := client.maxXmlNodes
  maxRetainedStringBytes := client.maxXmlBytes

variable (reader : XmlReader)

/-- `s3_xml_parse_root`. -/
def parseRoot (body expectedRoot : Bytes) : Except Status Xml :=
  if body = [] ∨ client.maxXmlBytes = 0 ∨ client.maxXmlNodes = 0 then
    .error .einval
  else if client.maxXmlBytes < body.length then
    .error .emsgsize
  else
    match reader.parse client.xmlLimits body with
    | .error error => .error (xmlStatusMap error)
    | .ok root =>
      if root.name? ≠ some expectedRoot then .error .eproto else .ok root

/-- `s3_multipart_parse_u64`. -/
def parseU64 (text : Bytes) : Option Nat :=
  if text = [] then none else go 0 text
where
  /-- The loop of `s3_multipart_parse_u64`. -/
  go : Nat → Bytes → Option Nat
    | value, [] => some value
    | value, octet :: octets =>
      if ¬isDigit octet ∨ (2 ^ 64 - 1 - digitValue octet) / 10 < value then
        none
      else
        go (value * 10 + digitValue octet) octets

/-- The check and the end of `s3_multipart_checkpoint_part_parse`. -/
def placePart (parts : List (Option Part)) (number size : Nat)
    (etag : Bytes) : Except Status (List (Option Part)) :=
  if present : number = 0 ∨ parts.length < number ∨ sizeMax < size ∨
      etag = [] ∨ (parts[number - 1]?).any Option.isSome then
    .error .eproto
  else
    .ok (parts.set (number - 1)
      (some ⟨etag, size, fun empty => present (by simp [empty]),
        Nat.le_of_not_lt fun large => present (by simp [large])⟩))

/-- `s3_multipart_checkpoint_part_parse`. -/
def partParse (parts : List (Option Part)) (node : Xml) :
    Except Status (List (Option Part)) := do
  let number ← childText node (ascii "Number")
  let size ← childText node (ascii "Size")
  let etag ← childText node (ascii "ETag")
  match parseU64 number, parseU64 size with
  | some number, some size => placePart parts number size etag
  | _, _ => .error .eproto

/-- The loop of `s3_multipart_checkpoint_parts_parse`. -/
def partsParse (parts : List (Option Part)) :
    List Xml → Except Status (List (Option Part))
  | [] => .ok parts
  | .text _ :: children => partsParse parts children
  | .element name content :: children =>
    if name ≠ ascii "Part" then
      .error .eproto
    else do
      let parts ← partParse parts (.element name content)
      partsParse parts children

/-- What a checkpoint has to say to be resumed. -/
structure Identity where
  bucket : Bytes
  key : Bytes
  sourcePath : Bytes
  stat : FileStat
  partSize : Nat
  customerKeyMd5 : Bytes
  deriving DecidableEq, Repr

variable (identity : Identity)

/-- The checks of `s3_multipart_checkpoint_identity`. -/
def identityCheck : List Bytes → Except Status Bytes
  | [version, connectionUri, authority, region, addressingStyle, bucket, key,
      sourcePath, fileSize, fileMtime, fileCtime, partSize, customerKeyMd5,
      uploadId] =>
      if version ≠ checkpointVersion then
        .error .eproto
      else if connectionUri ≠ client.connectionUri ∨
          authority ≠ client.authority ∨ region ≠ client.region ∨
          addressingStyle ≠ decimalOctets client.addressingStyle.number ∨
          bucket ≠ identity.bucket ∨ key ≠ identity.key ∨
          sourcePath ≠ identity.sourcePath ∨
          fileSize ≠ decimalOctets identity.stat.size ∨
          fileMtime ≠ decimalOctets identity.stat.mtime ∨
          fileCtime ≠ decimalOctets identity.stat.ctime ∨
          partSize ≠ decimalOctets identity.partSize ∨
          customerKeyMd5 ≠ identity.customerKeyMd5 then
        .error .einval
      else if uploadId = [] then
        .error .eproto
      else
        .ok uploadId
  | _ => .error .eproto

/-- The names in `s3_multipart_checkpoint_identity`. -/
def identityNames : List Bytes :=
  [ascii "Version", ascii "ConnectionUri", ascii "Authority", ascii "Region",
    ascii "AddressingStyle", ascii "Bucket", ascii "Key", ascii "SourcePath",
    ascii "FileSize", ascii "FileMtime", ascii "FileCtime", ascii "PartSize",
    ascii "SseCustomerKeyMd5", ascii "UploadId"]

/-- `s3_multipart_checkpoint_identity`. -/
def checkpointIdentity (root : Xml) : Except Status Bytes := do
  let values ← childTexts root identityNames
  identityCheck client identity values

/-- The part of `s3_multipart_checkpoint_load` for the parts of the
checkpoint. -/
def loadParts (root : Xml) : Except Status (List (Option Part)) :=
  match xmlChild root (ascii "Parts") with
  | none => .error .eproto
  | some parts =>
    partsParse (List.replicate client.maxMultipartParts none) parts.children

/-- The end of `s3_multipart_checkpoint_load`. -/
def resumed (uploadId : Bytes) (parts : List (Option Part)) :
    Except Status Upload :=
  if nonempty : uploadId = [] then
    .error .eproto
  else
    .ok ⟨identity.bucket, identity.key, uploadId, parts,
      identity.customerKeyMd5, nonempty⟩

/-- `s3_multipart_checkpoint_load` from a file with these contents. -/
def checkpointLoad (file : Bytes) : Except Status Upload := do
  let root ← parseRoot client reader file checkpointRoot
  let uploadId ← checkpointIdentity client identity root
  let parts ← loadParts client root
  resumed identity uploadId parts

end Chttp.S3

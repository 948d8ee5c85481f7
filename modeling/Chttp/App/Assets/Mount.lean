import Chttp.Lib.Percent
import Chttp.Server.Request

/-!
# Asset mounts

A mount maps the URL paths under a prefix to the files under a directory.  The
rest of a path is normalized to a relative path, and the relative path is walked
from the root of the mount; at every step the file system is asked about the
path so far without following a link.

The file system answers the calls of one request one after another and may
change between them.  Whether octets are well-formed UTF-8 is decided outside.
-/

namespace Chttp.App

open Lib Server

/-! ## Octets -/

/-- The separator of a URL path. -/
def slash : UInt8 := 47

/-- The full stop. -/
def fullStop : UInt8 := 46

/-- The space. -/
def space : UInt8 := 32

/-- `chttp_web_asset_hex`. -/
def assetHex (value : UInt8) : Option UInt8 := Percent.digitValue value

/-- `chttp_web_asset_component_byte_valid`. -/
def assetComponentByteValid (value : UInt8) : Bool :=
  !(value < 0x20 || value == 0x7f || value == backslash ||
    value == slash || value == 58 || value == 42 || value == 63 ||
    value == 34 || value == 60 || value == 62 || value == 124 || value == 35)

/-! ## Relative paths -/

/-- `CHTTP_WEB_ASSET_PREFIX_HARD_MAX`. -/
def assetPrefixHardMax : Nat := 1024

/-- `CHTTP_WEB_ASSET_ROOT_HARD_MAX`. -/
def assetRootHardMax : Nat := 4096

/-- `CHTTP_WEB_ASSET_RELATIVE_HARD_MAX`. -/
def assetRelativeHardMax : Nat := 4096

/-- `CHTTP_WEB_ASSET_FS_PATH_HARD_MAX`. -/
def assetFsPathHardMax : Nat := assetRootHardMax + assetRelativeHardMax + 2

/-- The errors of the functions on paths. -/
inductive AssetError where
  | einval
  | eperm
  | enametoolong
  | enoent
  | echarset
  | eloop
  | enotdir
  | eisdir
  | eio
  /-- What the file system returned. -/
  | native (code : Int)
  deriving DecidableEq, Repr

/-- Store an octet of a segment. -/
def storeOctet (max : Nat) (segment : Bytes) (value : UInt8) :
    Except AssetError Bytes :=
  if !assetComponentByteValid value then .error .eperm
  else if segment.length = max ∨ segment.length = assetRelativeHardMax then
    .error .enametoolong
  else .ok (segment ++ [value])

/-- An octet of a segment whose first character is `value`, and what is left
behind it. -/
def readOctet (decodePercent : Bool) (value : UInt8) (rest : Bytes) :
    Except AssetError (UInt8 × Bytes) :=
  if decodePercent ∧ value = percentSign then
    match rest with
    | first :: second :: rest =>
      match assetHex first, assetHex second with
      | some high, some low => .ok (high * 16 + low, rest)
      | _, _ => .error .einval
    | _ => .error .einval
  else .ok (value, rest)

theorem readOctet_rest {decodePercent : Bool} {value octet : UInt8}
    {rest rest' : Bytes}
    (read : readOctet decodePercent value rest = .ok (octet, rest')) :
    rest' <:+ rest := by
  unfold readOctet at read
  split at read
  · split at read
    · split at read
      · cases read
        exact (List.suffix_cons _ _).trans (List.suffix_cons _ _)
      · cases read
    · cases read
  · cases read
    exact List.suffix_rfl

/-- The loop over one segment of `chttp_web_asset_normalize_relative`: the
segment, and what is left behind it. -/
def readSegment (max : Nat) (decodePercent : Bool) (segment input : Bytes) :
    Except AssetError (Bytes × Bytes) :=
  match input with
  | [] => .ok (segment, [])
  | value :: rest =>
    if value = slash then .ok (segment, value :: rest)
    else
      match _read : readOctet decodePercent value rest with
      | .error error => .error error
      | .ok (octet, rest) =>
        match storeOctet max segment octet with
        | .error error => .error error
        | .ok segment => readSegment max decodePercent segment rest
termination_by input.length
decreasing_by
  exact Nat.lt_succ_of_le (readOctet_rest _read).length_le

/-- Put a segment behind the segments before it. -/
def storeSegment (max : Nat) (output segment : Bytes) :
    Except AssetError Bytes :=
  if segment = [] ∨ segment = [fullStop] then .ok output
  else if segment = [fullStop, fullStop] then .error .eperm
  else if segment.getLast? = some fullStop ∨ segment.getLast? = some space then
    .error .eperm
  else if output ≠ [] ∧ output.length = max then .error .enametoolong
  else
    let output := if output ≠ [] then output ++ [slash] else output
    if max - output.length < segment.length then .error .enametoolong
    else .ok (output ++ segment)

theorem readSegment_rest {max : Nat} {decodePercent : Bool}
    {segment segment' input rest : Bytes}
    (read : readSegment max decodePercent segment input =
      .ok (segment', rest)) :
    rest.length ≤ input.length ∧
      (input ≠ [] → input.head? ≠ some slash → rest.length < input.length) := by
  fun_induction readSegment max decodePercent segment input with
  | case1 segment =>
    cases read
    exact ⟨le_rfl, fun some => absurd rfl some⟩
  | case2 segment rest =>
    cases read
    exact ⟨le_rfl, fun _ other => absurd rfl other⟩
  | case3 | case4 => cases read
  | case5 segment value rest other octet rest' octetRead segment'' stored ih =>
    have shorter := (ih read).1.trans (readOctet_rest octetRead).length_le
    exact ⟨shorter.trans (Nat.le_succ _), fun _ _ => Nat.lt_succ_of_le shorter⟩

theorem readSegment_shorter {max : Nat} {decodePercent : Bool}
    {segment segment' input rest : Bytes} (some : input ≠ [])
    (read : readSegment max decodePercent segment input =
      .ok (segment', rest)) :
    (rest.dropWhile (· = slash)).length < input.length := by
  obtain ⟨bounded, shorter⟩ := readSegment_rest read
  have dropped := (rest.dropWhile_suffix (· = slash)).length_le
  by_cases first : input.head? = Option.some slash
  · -- nothing was read, so the slash in front is dropped
    cases input with
    | nil => exact absurd rfl some
    | cons value input =>
      cases Option.some.inj first
      unfold readSegment at read
      rw [if_pos rfl] at read
      cases read
      rw [List.dropWhile_cons, if_pos (decide_eq_true rfl)]
      exact Nat.lt_succ_of_le (input.dropWhile_suffix (· = slash)).length_le
  · exact dropped.trans_lt (shorter some first)

/-- The loop over the segments of `chttp_web_asset_normalize_relative`. -/
def normalizeLoop (max : Nat) (decodePercent : Bool) (output input : Bytes) :
    Except AssetError Bytes :=
  if _some : input = [] then .ok output
  else
    match _read : readSegment max decodePercent [] input with
    | .error error => .error error
    | .ok (segment, rest) =>
      match storeSegment max output segment with
      | .error error => .error error
      | .ok output =>
        normalizeLoop max decodePercent output (rest.dropWhile (· = slash))
termination_by input.length
decreasing_by exact readSegment_shorter _some _read

/-- `chttp_web_asset_normalize_relative`. -/
def normalizeRelative (utf8Valid : Bytes → Bool) (input : Bytes) (max : Nat)
    (decodePercent : Bool) : Except AssetError Bytes :=
  if max = 0 ∨ assetRelativeHardMax < max then .error .einval
  else
    match normalizeLoop max decodePercent [] (input.dropWhile (· = slash)) with
    | .error error => .error error
    | .ok output =>
      if output = [] then .error .enoent
      else if !utf8Valid output then .error .echarset
      else .ok output

/-! ## The file system -/

/-- The platform for which the library was built. -/
inductive Platform where
  | posix
  | windows
  deriving DecidableEq, Repr

/-- What `cmeta_fs_lstat` says about a path. -/
structure FileMetadata where
  isDirectory : Bool
  isFile : Bool
  isSymlink : Bool
  deriving DecidableEq, Repr

/-- The answers to the calls of one request, by their number. -/
structure FileSystem where
  lstat : Nat → Bytes → Except AssetError FileMetadata
  /-- `GetFileAttributesA`: whether the path is a reparse point. -/
  reparsePoint : Nat → Bytes → Option Bool

variable (platform : Platform) (files : FileSystem)

namespace Platform

/-- The separator which is written. -/
def separator : Platform → UInt8
  | .posix => slash
  | .windows => backslash

/-- `chttp_web_asset_path_has_reparse`. -/
def pathHasReparse (time : Nat) (path : Bytes) :
    Except AssetError FileMetadata :=
  match files.lstat time path with
  | .error error => .error error
  | .ok metadata =>
    match platform with
    | .windows =>
      match files.reparsePoint time path with
      | none => .error .eio
      | some true => .error .eloop
      | some false => .ok metadata
    | .posix => if metadata.isSymlink then .error .eloop else .ok metadata

/-- Put a segment behind a path. -/
def place (output segment : Bytes) : Bytes :=
  (if output = [] ∨
    (output.getLast? ≠ some slash ∧ output.getLast? ≠ some backslash) then
    output ++ [platform.separator]
  else output) ++ segment

/-- The loop of `chttp_web_asset_resolve_file`. -/
def resolveLoop (platform : Platform) (files : FileSystem) (time : Nat)
    (output relative : Bytes) : Except AssetError Bytes :=
  if _some : relative = [] then .ok output
  else
    let segment := relative.takeWhile (· ≠ slash)
    if assetFsPathHardMax < output.length + 1 + segment.length then
      .error .enametoolong
    else
      let output := platform.place output segment
      match platform.pathHasReparse files time output with
      | .error error => .error error
      | .ok metadata =>
        if slash ∉ relative then
          if !metadata.isFile then .error .eisdir else .ok output
        else if !metadata.isDirectory then .error .enotdir
        else
          platform.resolveLoop files (time + 1) output
            (relative.drop (segment.length + 1))
termination_by relative.length
decreasing_by
  rw [List.length_drop]
  have := List.length_pos_iff.mpr _some
  omega

end Platform

/-! ## Mounts -/

/-- `chttp_web_asset_mount`. -/
structure AssetMount where
  urlPrefix : CString
  filesystemRoot : CString
  maxRelativePathBytes : Nat
  cacheControl : Option CString
  immutableCacheControl : Option CString
  immutable : Option (Bytes → Bool)
  etag : Option (Bytes → Option CString)
  spaUrlPrefix : Option CString
  spaFallbackRelativePath : Option CString

/-- What a mount works with besides the request. -/
structure AssetSurroundings where
  platform : Platform
  files : FileSystem
  utf8Valid : Bytes → Bool
  /-- `chttp_server_response_set_header`. -/
  setHeader : Bytes → Bytes → Status

/-- `chttp_web_asset_prefix_valid`. -/
def assetPrefixValid (utf8Valid : Bytes → Bool) (string : CString) : Bool :=
  string.length ≤ assetPrefixHardMax && 2 ≤ string.length &&
    string.bytes.head? == some slash && string.bytes.getLast? != some slash &&
    (string.bytes.all fun value =>
      !(value < 0x20 || value == 0x7f || value == backslash ||
        value == 63 || value == 35 || value == percentSign)) &&
    utf8Valid string.bytes

/-- `chttp_web_asset_prefix_matches`. -/
def assetPrefixMatches (string path : CString) : Bool :=
  string.bytes.isPrefixOf path.bytes &&
    match path.bytes.drop string.length with
    | [] => true
    | value :: _ => value == slash

namespace AssetMount

variable (surroundings : AssetSurroundings) (mount : AssetMount)

/-- `chttp_web_asset_mount_valid`. -/
def valid : Bool :=
  assetPrefixValid surroundings.utf8Valid mount.urlPrefix &&
    mount.maxRelativePathBytes != 0 &&
    mount.maxRelativePathBytes ≤ assetRelativeHardMax &&
    mount.spaUrlPrefix.isNone == mount.spaFallbackRelativePath.isNone &&
    mount.spaUrlPrefix.all (assetPrefixValid surroundings.utf8Valid) &&
    mount.filesystemRoot.length ≤ assetRootHardMax &&
    mount.filesystemRoot.length != 0 &&
    (match surroundings.platform.pathHasReparse surroundings.files 0
        mount.filesystemRoot.bytes with
      | .error _ => false
      | .ok metadata => metadata.isDirectory) &&
    mount.spaFallbackRelativePath.all fun fallback =>
      (normalizeRelative surroundings.utf8Valid fallback.bytes
        mount.maxRelativePathBytes false).toBool

/-- `chttp_web_assets_use`: the mount which is registered. -/
def use : Option AssetMount :=
  if mount.valid surroundings then some mount else none

/-- `chttp_web_asset_resolve_file`. -/
def resolveFile (mount : AssetMount) (relative : Bytes) :
    Except AssetError Bytes :=
  let root := mount.filesystemRoot.bytes
  if assetRootHardMax < root.length ∨ root.length = 0 then .error .einval
  else
    match platform.pathHasReparse files 0 root with
    | .error error => .error error
    | .ok metadata =>
      if !metadata.isDirectory then .error .enotdir
      else platform.resolveLoop files 1 root relative

/-- What the middleware does. -/
inductive Outcome where
  /-- `chttp_server_next_call`. -/
  | next
  /-- The `404` of `chttp_web_asset_not_found`. -/
  | notFound
  /-- The `405` of `chttp_web_asset_method_not_allowed`. -/
  | methodNotAllowed
  /-- A header was refused. -/
  | refused (status : Status)
  /-- `chttp_server_serve_file`. -/
  | serveFile (path : Bytes) (etag : Option CString) (cacheControl : Bytes)
  deriving DecidableEq, Repr

/-- `chttp_web_asset_method_not_allowed`. -/
def rejectMethod : Outcome :=
  match surroundings.setHeader (ascii "Allow") (ascii "GET, HEAD") with
  | .ok => .methodNotAllowed
  | status => .refused status

/-- The `Cache-Control` of a file. -/
def cacheControlFor (relative : Bytes) : Bytes :=
  let plain := (mount.cacheControl.map (·.bytes)).getD (ascii "no-cache")
  if mount.immutable.any (· relative) then
    (mount.immutableCacheControl.map (·.bytes)).getD plain
  else plain

/-- `chttp_web_asset_serve_relative`. -/
def serveRelative (relative : Bytes) : Outcome :=
  match mount.resolveFile surroundings.platform surroundings.files relative with
  | .error _ => .notFound
  | .ok path =>
    let cacheControl := mount.cacheControlFor relative
    match surroundings.setHeader (ascii "Cache-Control") cacheControl with
    | .ok =>
      .serveFile path (mount.etag.bind (· relative)) cacheControl
    | status => .refused status

/-- Serve the file of a relative path which is not yet normalized. -/
def serve (method : Method) (input : Bytes) (decodePercent : Bool) : Outcome :=
  if method ≠ .get ∧ method ≠ .head then rejectMethod surroundings
  else
    match normalizeRelative surroundings.utf8Valid input
        mount.maxRelativePathBytes decodePercent with
    | .error _ => .notFound
    | .ok relative => mount.serveRelative surroundings relative

/-- `chttp_web_assets_middleware`. -/
def middleware (method : Method) (path : CString) : Outcome :=
  if assetPrefixMatches mount.urlPrefix path then
    mount.serve surroundings method
      (path.bytes.drop mount.urlPrefix.length) true
  else
    match mount.spaUrlPrefix, mount.spaFallbackRelativePath with
    | some spaUrlPrefix, some fallback =>
      if assetPrefixMatches spaUrlPrefix path then
        mount.serve surroundings method fallback.bytes false
      else .next
    | some spaUrlPrefix, none =>
      -- a path which is not there is refused
      if assetPrefixMatches spaUrlPrefix path then
        if method ≠ .get ∧ method ≠ .head then rejectMethod surroundings
        else .notFound
      else .next
    | none, _ => .next

end AssetMount

end Chttp.App

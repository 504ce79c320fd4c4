import Mathlib.Data.List.DropRight

/-!
# The targets of the router

The part of `web/js/router.js` that decides where the browser goes after a login: the
table of routes, the normal form of a path, and the check of a target that comes from the
address bar or from the storage of the browser. Strings are sequences of UTF-16 code units.
-/

namespace OnlineJudge.Web

/-- A JavaScript string. -/
abbrev JsString := List UInt16

namespace JsString

/-- The units of a text without characters beyond U+FFFF. -/
def ofString (text : String) : JsString := text.toList.map fun char => UInt16.ofNat char.toNat

/-- What `trim` takes off: white space and line terminators. -/
def isSpace (unit : UInt16) : Bool :=
  (9 ≤ unit && unit ≤ 13) || unit = 32 || unit = 160 || unit = 5760 ||
    (8192 ≤ unit && unit ≤ 8202) || unit = 8232 || unit = 8233 || unit = 8239 || unit = 8287 ||
    unit = 12288 || unit = 65279

def trim (text : JsString) : JsString := (text.dropWhile isSpace).rdropWhile isSpace

/-- `/[\\u0000-\\u001f\\u007f]/`. -/
def isControl (unit : UInt16) : Bool := unit < 32 || unit = 127

section Decoding

/-- What a string is made of for `decodeURIComponent`. -/
inductive Token where
  | unit (unit : UInt16)
  /-- An escape `%XX`. -/
  | byte (byte : ℕ)
  deriving DecidableEq, Repr

def hexDigit (unit : UInt16) : Option ℕ :=
  if 48 ≤ unit ∧ unit ≤ 57 then some (unit.toNat - 48)
  else if 65 ≤ unit ∧ unit ≤ 70 then some (unit.toNat - 55)
  else if 97 ≤ unit ∧ unit ≤ 102 then some (unit.toNat - 87)
  else none

/-- An escape that is cut off or has no hexadecimal digits is an error. -/
def tokens : JsString → Option (List Token)
  | [] => some []
  | unit :: rest =>
      if unit = 37 then
        match rest with
        | high :: low :: rest =>
            match hexDigit high, hexDigit low with
            | some high, some low => (tokens rest).map (.byte (16 * high + low) :: ·)
            | _, _ => none
        | _ => none
      else (tokens rest).map (.unit unit :: ·)

/-- A code point in UTF-16. -/
def encodeUtf16 (codePoint : ℕ) : JsString :=
  if codePoint < 65536 then [UInt16.ofNat codePoint]
  else
    [UInt16.ofNat (55296 + (codePoint - 65536) / 1024),
      UInt16.ofNat (56320 + (codePoint - 65536) % 1024)]

/-- The byte continues a character of UTF-8. -/
def continues (byte : ℕ) : Bool := 128 ≤ byte && byte < 192

/-- The escaped bytes are characters in UTF-8, in their shortest form and no surrogates. -/
def decodeTokens : List Token → Option JsString
  | [] => some []
  | .unit unit :: rest => (decodeTokens rest).map (unit :: ·)
  | .byte first :: rest =>
      if first < 128 then (decodeTokens rest).map (UInt16.ofNat first :: ·)
      else if first < 194 then none
      else if first < 224 then
        match rest with
        | .byte second :: rest =>
            if continues second then
              (decodeTokens rest).map
                (encodeUtf16 ((first - 192) * 64 + (second - 128)) ++ ·)
            else none
        | _ => none
      else if first < 240 then
        match rest with
        | .byte second :: .byte third :: rest =>
            let codePoint := (first - 224) * 4096 + (second - 128) * 64 + (third - 128)
            if continues second && continues third && 2048 ≤ codePoint &&
                !(55296 ≤ codePoint && codePoint < 57344) then
              (decodeTokens rest).map (encodeUtf16 codePoint ++ ·)
            else none
        | _ => none
      else if first < 245 then
        match rest with
        | .byte second :: .byte third :: .byte fourth :: rest =>
            let codePoint :=
              (first - 240) * 262144 + (second - 128) * 4096 + (third - 128) * 64 + (fourth - 128)
            if continues second && continues third && continues fourth && 65536 ≤ codePoint &&
                codePoint < 1114112 then
              (decodeTokens rest).map (encodeUtf16 codePoint ++ ·)
            else none
        | _ => none
      else none

/-- `decodeURIComponent`; `none` when it throws. -/
def decodeURIComponent (text : JsString) : Option JsString := (tokens text).bind decodeTokens

end Decoding

end JsString

open JsString

/-- The access condition of a route. -/
inductive Access where
  | isPublic
  | auth
  | admin
  deriving DecidableEq, Repr

structure Route where
  pattern : JsString
  access : Access
  deriving DecidableEq, Repr

/-- A part of a pattern between slashes. -/
inductive Segment where
  | literal (text : JsString)
  /-- `:key`, which stands for one or more units other than a slash. -/
  | param (key : JsString)
  deriving DecidableEq, Repr

def Segment.ofPart (part : JsString) : Segment :=
  if [58] <+: part then .param (part.drop 1) else .literal part

/-- `compile`: the regular expression of a pattern, one part after the other. -/
def compile (pattern : JsString) : List Segment := (pattern.splitOn 47).map .ofPart

/-- The regular expression matches the parts of a path; the keys with what they stand for. -/
def matchSegments : List Segment → List JsString → Option (List (JsString × JsString))
  | [], [] => some []
  | .literal text :: segments, part :: parts =>
      if text = part then matchSegments segments parts else none
  | .param key :: segments, part :: parts =>
      if part = [] then none else (matchSegments segments parts).map ((key, part) :: ·)
  | _, _ => none

/-- `normalizePath`: one slash at the beginning, none at the end. -/
def normalizePath (value : JsString) : JsString :=
  let path := if [47] <+: value then value else 47 :: value
  let path := 47 :: path.dropWhile (· = 47)
  let path := if 1 < path.length then path.rdropWhile (· = 47) else path
  if path = [] then [47] else path

/-- A parameter of a route as the page gets it, and whether it is refused. -/
structure Param where
  key : JsString
  value : JsString
  invalid : Bool
  deriving DecidableEq, Repr

/-- A control character, a slash and the names of directories are refused, and so is an encoding
that cannot be decoded, which the page gets as it is. -/
def decodeParam (key value : JsString) : Param :=
  let decoded := decodeURIComponent value
  let shown := decoded.getD value
  { key := key
    value := shown
    invalid :=
      decoded.isNone || shown.any isControl || 47 ∈ shown || shown = [46] || shown = [46, 46] }

structure RouteMatch where
  route : Route
  params : List Param
  deriving DecidableEq, Repr

def RouteMatch.invalid (matched : RouteMatch) : Bool := matched.params.any (·.invalid)

/-- `matchRoute`: the first route whose pattern matches; `*` is the page for what is not found. -/
def matchRoute : List Route → JsString → Option RouteMatch
  | [], _ => none
  | route :: routes, path =>
      if route.pattern = [42] then matchRoute routes path
      else
        match matchSegments (compile route.pattern) (path.splitOn 47) with
        | none => matchRoute routes path
        | some params =>
            some { route := route, params := params.map fun param => decodeParam param.1 param.2 }

/-- `FLOW_PATHS`: the pages that a login leads through. -/
def flowPaths : List JsString :=
  [JsString.ofString "/login", JsString.ofString "/register", JsString.ofString "/password"]

/-- The target without white space around it and without its hash sign. -/
def targetValue (raw : JsString) : JsString :=
  let value := trim raw
  if [35] <+: value then value.drop 1 else value

/-- The normal form of what stands before the first question mark. -/
def targetPath (value : JsString) : JsString := normalizePath (value.takeWhile (· ≠ 63))

/-- What stands behind the first question mark. -/
def targetSearch (value : JsString) : JsString := (value.dropWhile (· ≠ 63)).drop 1

/-- `sanitizeTarget`; the argument is missing for `undefined` and `null`. -/
def sanitizeTarget (routes : List Route) (raw : Option JsString) : JsString :=
  match raw with
  | none => []
  | some text =>
      let value := targetValue text
      if value = [] then []
      else if ¬[47] <+: value then []
      else if [47, 47] <+: value then []
      else if 92 ∈ value then []
      else if value.any isControl then []
      else
        let path := targetPath value
        let search := targetSearch value
        if path ∈ flowPaths then []
        else
          match matchRoute routes path with
          | none => []
          | some matched =>
              if matched.invalid then []
              else if search ≠ [] ∧ search.any (fun unit => isControl unit || unit = 35) then []
              else if search ≠ [] then path ++ [63] ++ search
              else path

/-- Who is logged in. -/
structure Viewer where
  isAdmin : Bool
  isLoggedIn : Bool
  deriving DecidableEq, Repr

inductive RedirectReason where
  | none
  | invalid
  | forbidden
  | unauthenticated
  deriving DecidableEq, Repr

structure Redirect where
  path : JsString
  reason : RedirectReason
  /-- Where to go after the login. -/
  target : Option JsString
  deriving DecidableEq, Repr

def Redirect.toProblems (reason : RedirectReason) : Redirect where
  path := JsString.ofString "/problems"
  reason := reason
  target := none

/-- `accessOfRoute`; a path without a page is open to everyone. -/
def accessOf : Option RouteMatch → Access
  | none => .isPublic
  | some matched => matched.route.access

/-- `resolvePostAuthTarget`: where to go after a login. -/
def resolvePostAuthTarget (routes : List Route) (viewer : Viewer) (raw : Option JsString) :
    Redirect :=
  let target := sanitizeTarget routes raw
  if target = [] then .toProblems (if raw.getD [] = [] then .none else .invalid)
  else
    let access := accessOf (matchRoute routes (target.takeWhile (· ≠ 63)))
    if access = .admin ∧ !viewer.isAdmin then .toProblems .forbidden
    else if access ≠ .isPublic ∧ !viewer.isLoggedIn then
      { path := JsString.ofString "/login", reason := .unauthenticated, target := some target }
    else { path := target, reason := .none, target := none }

end OnlineJudge.Web

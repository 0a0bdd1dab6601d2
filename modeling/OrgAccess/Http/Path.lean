import OrgAccess.Http.Problem
import OrgAccess.Text.Hex
import OrgAccess.Uuid

/-!
# Identifiers in paths

A segment of a path is written in percent encoding: a percent sign and two hexadecimal digits
stand for a byte. The bytes have to be UTF-8, and the text an identifier in one of its forms.
-/

namespace OrgAccess.Http

/-- The bytes that a segment in percent encoding stands for. -/
def percentDecode : List UInt8 → List UInt8
  | 0x25 :: high :: low :: rest =>
    match Text.readHex? [Char.ofNat high.toNat, Char.ofNat low.toNat] 0 with
    | some value => UInt8.ofNat value :: percentDecode rest
    | none => 0x25 :: percentDecode (high :: low :: rest)
  | byte :: rest => byte :: percentDecode rest
  | [] => []

/-- Why a segment is no identifier. -/
inductive SegmentFault where
  | notText (name : String)
  /-- Its text is no identifier. -/
  | notIdentifier (message : String)
deriving DecidableEq

/-- The text of a segment; the name is that of the identifier in the path. -/
def segmentText (name : String) (segment : List Char) : Except SegmentFault String :=
  match Text.ofUtf8? (percentDecode (Text.encodeUtf8 segment)) with
  | some text => .ok text
  | none => .error (.notText name)

/-- Reads an identifier in a path, or tells the message that is given for it. -/
def identifier (message : String) (text : String) : Except SegmentFault Uuid :=
  match Uuid.ofText? text with
  | some id => .ok id
  | none => .error (.notIdentifier message)

/-- How a request is answered whose path cannot be read. -/
def SegmentFault.response : SegmentFault → Response
  | notText name => .of 400 (.plain ("Invalid URL: Invalid UTF-8 in `" ++ name ++ "`"))
  | notIdentifier message => (Problem.badRequest message).response

end OrgAccess.Http

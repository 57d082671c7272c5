import InfraReview.Json.Reader
import InfraReview.Text.Encoding

/-!
# JSON documents in bytes

The encoding of a document in bytes is found from its first four bytes: a byte order
mark names it, and otherwise the places of the zero bytes do, because a document
starts with two ASCII characters. Everything else is UTF-8.

Half of a surrogate pair may stand in bytes as well as in an escape. No document is told for
such bytes, nor why the text around it may not be JSON.
-/

namespace InfraReview.Json

/-- The encoding of a document and the number of bytes of its byte order mark. The mark
of UTF-8 counts as nothing for the positions in faults, those of the wider encodings
count as part of the document. -/
def detectEncoding (bytes : List UInt8) : Text.Encoding × Nat :=
  match bytes with
  | 0x00 :: 0x00 :: 0xFE :: 0xFF :: _ => (.utf32 true, 4)
  | 0xFF :: 0xFE :: 0x00 :: 0x00 :: _ => (.utf32 false, 4)
  | 0xFE :: 0xFF :: _ => (.utf16 true, 2)
  | 0xFF :: 0xFE :: _ => (.utf16 false, 2)
  | 0xEF :: 0xBB :: 0xBF :: _ => (.utf8, 3)
  | a :: b :: c :: d :: _ =>
    if a = 0 then (if b = 0 then .utf32 true else .utf16 true, 0)
    else if b = 0 then (if c = 0 && d = 0 then .utf32 false else .utf16 false, 0)
    else (.utf8, 0)
  | [a, b] =>
    if a = 0 then (.utf16 true, 0)
    else if b = 0 then (.utf16 false, 0)
    else (.utf8, 0)
  | _ => (.utf8, 0)

/-- Why bytes or a text hold no document. -/
inductive DocumentFault where
  | encoding (fault : Text.DecodeFault)
  | content (fault : Fault) (text : List Char)
  | length (fault : LengthFault)
  | unpairedHalf

/-- The message of such a fault. -/
def DocumentFault.message : DocumentFault → String
  | .encoding fault => fault.message
  | .content fault text => fault.message text
  | .length fault => fault.message
  | .unpairedHalf => FaultKind.unpairedHalf.message

/-- The fault of bytes that are no text. -/
def DocumentFault.ofDecodeFault (bytes : List UInt8) (fault : Text.DecodeFault) :
    DocumentFault :=
  if fault.reason = .unpairedHalf
      || (fault.encoding = .utf8 && Text.isEncodedHalf (bytes.drop fault.first)) then
    .unpairedHalf
  else .encoding fault

/-- The text of a document in bytes. -/
def decodeText (bytes : List UInt8) : Except DocumentFault (List Char) :=
  let (encoding, mark) := detectEncoding bytes
  let position := if encoding = .utf8 then 0 else mark
  let content := bytes.drop mark
  (Text.decodeFrom encoding position content).mapError (.ofDecodeFault content)

/-- The fault of a text that is no document. -/
def DocumentFault.ofFault (text : List Char) (fault : Fault) : DocumentFault :=
  match fault.kind with
  | .tooLong digits => .length (.read digits)
  | .unpairedHalf => .unpairedHalf
  | _ => .content fault text

/-- The document in a byte string. -/
def readBytes (bytes : List UInt8) : Except DocumentFault Json :=
  match decodeText bytes with
  | .error fault => .error fault
  | .ok text => (readDecoded text).mapError (.ofFault text)

/-- The document in a text. -/
def readText (text : List Char) : Except DocumentFault Json :=
  (read text).mapError (.ofFault text)

end InfraReview.Json

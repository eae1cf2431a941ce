import TextAdventure.Text.Split

/-!
Targets of requests: percent encoding, paths, queries and fragments. Bytes that are no UTF-8 read as
the replacement character, one for each longest beginning of a valid sequence.
-/
namespace TextAdventure.Url

def hexValue? (c : Char) : Option Nat :=
  if c.isDigit then some (c.toNat - 48)
  else if 'a' ≤ c ∧ c ≤ 'f' then some (c.toNat - 87)
  else if 'A' ≤ c ∧ c ≤ 'F' then some (c.toNat - 55)
  else none

/-- The UTF-8 bytes of a character. -/
def bytesOf (c : Char) : List Nat := (String.utf8EncodeChar c).map UInt8.toNat

/-- The bytes of a text in which a percent sign and two hexadecimal digits stand for one byte. -/
def percentBytes : Text → List Nat
  | [] => []
  | '%' :: a :: b :: t =>
    match hexValue? a, hexValue? b with
    | some x, some y => (16 * x + y) :: percentBytes t
    | _, _ => 0x25 :: percentBytes (a :: b :: t)
  | c :: t => bytesOf c ++ percentBytes t

/-- What a first byte announces: the number of further bytes, the range of the first of them, and
its own share of the code point. -/
def leadByte? (b : Nat) : Option (Nat × Nat × Nat × Nat) :=
  if 0xC2 ≤ b ∧ b ≤ 0xDF then some (1, 0x80, 0xBF, b - 0xC0)
  else if b = 0xE0 then some (2, 0xA0, 0xBF, 0)
  else if b = 0xED then some (2, 0x80, 0x9F, 13)
  else if 0xE1 ≤ b ∧ b ≤ 0xEF then some (2, 0x80, 0xBF, b - 0xE0)
  else if b = 0xF0 then some (3, 0x90, 0xBF, 0)
  else if 0xF1 ≤ b ∧ b ≤ 0xF3 then some (3, 0x80, 0xBF, b - 0xF0)
  else if b = 0xF4 then some (3, 0x80, 0x8F, 4)
  else none

/-- At most `n` bytes that may continue a sequence, the first of them from `low` to `high`. -/
def continuation : Nat → Nat → Nat → List Nat → List Nat
  | n + 1, low, high, b :: bs =>
    if low ≤ b ∧ b ≤ high then b :: continuation n 0x80 0xBF bs else []
  | _, _, _, _ => []

/-- The characters of a sequence of bytes. -/
def decodeBytes : List Nat → Text
  | [] => []
  | b :: bs =>
    if b < 0x80 then Char.ofNat b :: decodeBytes bs
    else
      match leadByte? b with
      | none => '\ufffd' :: decodeBytes bs
      | some (n, low, high, share) =>
        let more := continuation n low high bs
        let c := if more.length = n then Char.ofNat (more.foldl (fun v d => 64 * v + d % 64) share)
          else '\ufffd'
        c :: decodeBytes (bs.drop more.length)
termination_by bs => bs.length
decreasing_by all_goals simp only [List.length_cons, List.length_drop]; omega

/-- Undoes percent encoding. -/
def percentDecode (t : Text) : Text := decodeBytes (percentBytes t)

/-- Resolves the segments `.` and `..` of a path, given the segments in front, latest first. -/
def resolveSegments (before : List Text) : List Text → List Text
  | [] => before.reverse
  | segment :: rest =>
    if segment = ['.'] then resolveSegments before rest
    else if segment = ['.', '.'] then
      resolveSegments (if before = [[]] then before else before.drop 1) rest
    else resolveSegments (segment :: before) rest

/-- A path without the segments `.` and `..`. -/
def resolved (path : Text) : Text := Text.join ['/'] (resolveSegments [] (Text.splitOn '/' path))

/-- A target cut in front of its fragment. -/
def beforeFragment (target : Text) : Text := target.takeWhile (· != '#')

/-- A target cut in front of its query. -/
def beforeQuery (target : Text) : Text := (beforeFragment target).takeWhile (· != '?')

/-- The decoded path of a target. -/
def path (target : Text) : Text := percentDecode (resolved (beforeQuery target))

/-- One name or value of a query, in which a plus sign stands for a space. -/
def queryText (t : Text) : Text := percentDecode (t.map fun c => if c = '+' then ' ' else c)

/-- The names and values of the query of a target. -/
def query (target : Text) : List (Text × Text) :=
  let raw := ((beforeFragment target).dropWhile (· != '?')).drop 1
  ((Text.splitOn '&' raw).filter fun p => !p.isEmpty).map fun p =>
    let name := p.takeWhile (· != '=')
    (queryText name, queryText (p.drop (name.length + 1)))

/-- The value of a query parameter; the last one counts. -/
def parameter? (target : Text) (name : String) : Option Text :=
  (query target).reverse.lookup name.toList

def percentEncodeByte (b : Nat) : Text :=
  ['%', (Nat.digitChar (b / 16)).toUpper, (Nat.digitChar (b % 16)).toUpper]

/-- Encodes all but visible ASCII, and of that the reserved characters. -/
def percentEncode (reserved : List Char) (t : Text) : Text :=
  t.flatMap fun c =>
    if 33 ≤ c.toNat && c.toNat < 127 && !reserved.contains c then [c]
    else (bytesOf c).flatMap percentEncodeByte

/-- A target as it is written: its path without dot segments, its query and its fragment, each
with other characters encoded. The marks in front of query and fragment are reserved in neither. -/
def written (target : Text) : Text :=
  let path := beforeQuery target
  let query := (beforeFragment target).drop path.length
  let fragment := target.drop (beforeFragment target).length
  percentEncode ['\x22', '#', '<', '>', '?', '\x60', '\x7b', '\x7d'] (resolved path)
    ++ percentEncode ['\x22', '#', '<', '>'] query
    ++ percentEncode ['\x22', '<', '>', '\x60'] fragment

end TextAdventure.Url

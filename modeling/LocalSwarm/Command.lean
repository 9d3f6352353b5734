import LocalSwarm.Download.Request

/-! The lines by which a user commands a node. A line counts only as its words; which characters
part words is the Unicode property `White_Space`. -/
namespace LocalSwarm

inductive Command where
  | help
  | announce
  | contacts
  | state
  | put (key : Identifier) (value : String)
  | get (key : Identifier)
  | download (request : DownloadRequest)
  | quit
deriving DecidableEq

namespace Command

def isBlank (c : Char) : Bool :=
  let n := c.toNat
  (9 ≤ n && n ≤ 13) || n = 0x20 || n = 0x85 || n = 0xa0 || n = 0x1680 || (0x2000 ≤ n && n ≤ 0x200a)
    || n = 0x2028 || n = 0x2029 || n = 0x202f || n = 0x205f || n = 0x3000

/-- The words of a line: its longest runs of characters that are not blank. The second argument
holds the characters of the word that is being read, last one first. -/
def wordsFrom : List Char → List Char → List String
  | [], word => if word.isEmpty then [] else [String.ofList word.reverse]
  | c :: rest, word =>
    if isBlank c then
      if word.isEmpty then wordsFrom rest [] else String.ofList word.reverse :: wordsFrom rest []
    else wordsFrom rest (c :: word)

def words (line : String) : List String := wordsFrom line.toList []

/-- A key is forty hexadecimal digits, or stands for the text behind a number sign. -/
def key? (word : String) : Option Identifier :=
  match word.toList with
  | '#' :: text => some (Identifier.ofContent (Wire.utf8 (String.ofList text)))
  | _ => Identifier.ofHex? word

/-- Decimal digits, which a plus sign may precede. -/
def size? (word : String) : Option UInt64 :=
  let digits := match word.toList with
    | '+' :: rest => rest
    | cs => cs
  let value := digits.foldl (fun n c => n * 10 + (c.toNat - 48)) 0
  if digits.isEmpty || !digits.all (fun c => '0' ≤ c && c ≤ '9') || UInt64.size ≤ value then none
  else some (UInt64.ofNat value)

def ofWords : List String → Option Command
  | ["h"] => some .help
  | ["?"] => some .help
  | ["a"] => some .announce
  | ["c"] => some .contacts
  | ["i"] => some .state
  | "p" :: key :: first :: rest => do
    return .put (← key? key) (String.intercalate " " (first :: rest))
  | ["g", key] => do return .get (← key? key)
  | ["d", folder, bucket, path, name, size, version] => do
    let path := if path = "-" then "" else path
    return .download { folder, bucket, path, name, size := ← size? size, version }
  | ["q"] => some .quit
  | _ => none

def ofLine (line : String) : Option Command := ofWords (words line)

end Command
end LocalSwarm

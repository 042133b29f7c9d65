/-
  ClassSkeleton.Archive.Inflate — deflated data.

  A stream of blocks, read bit by bit from the low end of each byte: stored, with the fixed codes, or
  with codes of its own. Codes are prefix trees built from the lengths of their words; a tree has to be
  complete unless it has no word or a single one of length 1. A copy that reaches back before the start
  of the data finds zeros there. Anything else that does not fit makes the stream corrupt; input that
  ends before the last block does makes it incomplete; what follows the last block is not looked at.
-/

namespace ClassSkeleton.Archive

namespace Inflate

/-- Why data cannot be unpacked. -/
inductive Fault where
  | corrupt
  | incomplete
  deriving DecidableEq, Repr

abbrev Bits := List Bool

def bitsOfByte (b : UInt8) : Bits := (List.range 8).map fun i => b.toNat.testBit i

def bitsOf (bytes : List UInt8) : Bits := bytes.flatMap bitsOfByte

/-- A number of `n` bits, lowest first. -/
def number : Nat → Bits → Except Fault (Nat × Bits)
  | 0, bits => .ok (0, bits)
  | _ + 1, [] => .error .incomplete
  | n + 1, b :: rest => (number n rest).map fun (v, rest) => (2 * v + b.toNat, rest)

/-- A prefix code. -/
inductive Tree where
  | none
  | leaf (symbol : Nat)
  | node (zero one : Tree)

namespace Tree

/-- Adds a word; a word that runs through another one changes nothing. -/
def insert (symbol : Nat) : Bits → Tree → Tree
  | [], none => leaf symbol
  | [], t => t
  | false :: bits, none => node (insert symbol bits none) none
  | true :: bits, none => node none (insert symbol bits none)
  | false :: bits, node l r => node (insert symbol bits l) r
  | true :: bits, node l r => node l (insert symbol bits r)
  | _ :: _, leaf s => leaf s

/-- Follows the bits down to a symbol; a way that leads to no word is corrupt. -/
def walk : Tree → Bits → Except Fault (Nat × Bits)
  | leaf s, bits => .ok (s, bits)
  | none, _ => .error .corrupt
  | node _ _, [] => .error .incomplete
  | node l r, b :: bits => walk (if b then r else l) bits

/-- The next symbol; every symbol takes a bit at least. -/
def decode (t : Tree) (bits : Bits) : Except Fault (Nat × Bits) :=
  if bits.isEmpty then .error .incomplete else t.walk bits

end Tree

/-- The word of `length` bits for the number `code`, highest bit first. -/
def word (length code : Nat) : Bits := (List.range length).map fun i => code.testBit (length - 1 - i)

/-- The words of the given lengths, shorter ones first and in order of their symbols, each one more
than the last. -/
def assignWords (lengths : List Nat) : Tree :=
  let symbols := lengths.zipIdx
  let step (acc : Nat × Tree) (length : Nat) : Nat × Tree :=
    let start := (acc.1 * 2, acc.2)
    symbols.foldl (fun (next, tree) (l, symbol) =>
      if l = length then (next + 1, tree.insert symbol (word length next)) else (next, tree)) start
  (((List.range 15).map (· + 1)).foldl step (0, Tree.none)).2

/-- How much of the code space words of these lengths take, of 65536. -/
def coverage (lengths : List Nat) : Nat :=
  (lengths.map fun l => if l = 0 then 0 else 1 <<< (16 - l)).foldl (· + ·) 0

/-- The code for word lengths, unless it is over-full or has gaps; a code with a single word of length 1
or none may have gaps where `sparse` says so. -/
def treeOf (sparse : Bool) (lengths : List Nat) : Except Fault Tree :=
  let used := lengths.filter (· != 0)
  if coverage lengths = 65536 ∨ (sparse = true ∧ (used = [] ∨ used = [1])) then .ok (assignWords lengths)
  else .error .corrupt

def fixedLengths : List Nat :=
  List.replicate 144 8 ++ List.replicate 112 9 ++ List.replicate 24 7 ++ List.replicate 8 8

def fixedLiterals : Tree := assignWords fixedLengths

def fixedDistances : Tree := assignWords (List.replicate 32 5)

/-- The least length and the number of extra bits for the symbols from 257. -/
def lengthTable : List (Nat × Nat) := [
  (3, 0), (4, 0), (5, 0), (6, 0), (7, 0), (8, 0), (9, 0), (10, 0), (11, 1), (13, 1), (15, 1), (17, 1), (19, 2), (23, 2),
  (27, 2), (31, 2), (35, 3), (43, 3), (51, 3), (59, 3), (67, 4), (83, 4), (99, 4), (115, 4), (131, 5), (163, 5),
  (195, 5), (227, 5), (258, 0)]

def distanceTable : List (Nat × Nat) := [
  (1, 0), (2, 0), (3, 0), (4, 0), (5, 1), (7, 1), (9, 2), (13, 2), (17, 3), (25, 3), (33, 4), (49, 4), (65, 5), (97, 5),
  (129, 6), (193, 6), (257, 7), (385, 7), (513, 8), (769, 8), (1025, 9), (1537, 9), (2049, 10), (3073, 10), (4097, 11),
  (6145, 11), (8193, 12), (12289, 12), (16385, 13), (24577, 13)]

/-- A value from a table entry and its extra bits. -/
def tableValue (table : List (Nat × Nat)) (i : Nat) (bits : Bits) : Except Fault (Nat × Bits) :=
  match table[i]? with
  | some (least, extra) => (number extra bits).map fun (v, bits) => (least + v, bits)
  | none => .error .corrupt

/-- Appends `n` bytes, each the one `distance` before the end. -/
def copy (distance : Nat) : Nat → Array UInt8 → Array UInt8
  | 0, out => out
  | n + 1, out =>
    copy distance n (out.push (if distance ≤ out.size then out.getD (out.size - distance) 0 else 0))

/-- The symbols of a block up to its end mark. Every symbol takes a bit at least, so `fuel` of as many
as there are bits is enough. -/
def symbols (literals distances : Tree) : (fuel : Nat) → Bits → Array UInt8 → Except Fault (Bits × Array UInt8)
  | 0, _, _ => .error .incomplete
  | fuel + 1, bits, out =>
    match literals.decode bits with
    | .error e => .error e
    | .ok (s, bits) =>
      if s < 256 then symbols literals distances fuel bits (out.push (UInt8.ofNat s))
      else if s = 256 then .ok (bits, out)
      else
        match tableValue lengthTable (s - 257) bits with
        | .error e => .error e
        | .ok (length, bits) =>
          match distances.decode bits with
          | .error e => .error e
          | .ok (d, bits) =>
            match tableValue distanceTable d bits with
            | .error e => .error e
            | .ok (distance, bits) => symbols literals distances fuel bits (copy distance length out)

/-- The bytes of a stored block. -/
def storedBytes : Nat → Bits → Array UInt8 → Except Fault (Bits × Array UInt8)
  | 0, bits, out => .ok (bits, out)
  | n + 1, bits, out =>
    match number 8 bits with
    | .ok (b, bits) => storedBytes n bits (out.push (UInt8.ofNat b))
    | .error e => .error e

def stored (bits : Bits) (out : Array UInt8) : Except Fault (Bits × Array UInt8) := do
  let (length, bits) ← number 16 (bits.drop (bits.length % 8))
  let (check, bits) ← number 16 bits
  if length + check = 65535 then storedBytes length bits out else .error .corrupt

/-- The order in which the lengths of the code for lengths are written. -/
def lengthOrder : List Nat := [16, 17, 18, 0, 8, 7, 9, 6, 10, 5, 11, 4, 12, 3, 13, 2, 14, 1, 15]

/-- Three bits for each of the first `n` places of the order. -/
def codeLengths (n : Nat) (bits : Bits) : Except Fault (List Nat × Bits) :=
  let read := (lengthOrder.take n).foldlM (fun (acc : List (Nat × Nat) × Bits) place =>
    (number 3 acc.2).map fun (l, bits) => ((place, l) :: acc.1, bits)) ([], bits)
  read.map fun (pairs, bits) =>
    ((List.range 19).map fun s => ((pairs.find? fun p => p.1 == s).map (·.2)).getD 0, bits)

/-- Word lengths, last first, until there are `total`. -/
def runLengths (tree : Tree) (total : Nat) : (fuel : Nat) → List Nat → Bits → Except Fault (List Nat × Bits)
  | 0, _, _ => .error .corrupt
  | fuel + 1, acc, bits =>
    if acc.length = total then .ok (acc, bits)
    else if acc.length > total then .error .corrupt
    else
      match tree.decode bits with
      | .error e => .error e
      | .ok (s, bits) =>
        if s < 16 then runLengths tree total fuel (s :: acc) bits
        else
          let (extra, least) := if s = 16 then (2, 3) else if s = 17 then (3, 3) else (7, 11)
          match if s = 16 then acc.head? else some 0 with
          | none => .error .corrupt
          | some v =>
            match number extra bits with
            | .error e => .error e
            | .ok (n, bits) => runLengths tree total fuel (List.replicate (least + n) v ++ acc) bits

/-- The codes at the start of a block with codes of its own, which have at most 286 and 30 words. -/
def ownCodes (bits : Bits) : Except Fault (Tree × Tree × Bits) := do
  let (hlit, bits) ← number 5 bits
  let (hdist, bits) ← number 5 bits
  let (hclen, bits) ← number 4 bits
  if hlit + 257 > 286 ∨ hdist + 1 > 30 then .error .corrupt
  else
    let (lengths, bits) ← codeLengths (hclen + 4) bits
    let tree ← treeOf false lengths
    let total := hlit + 257 + (hdist + 1)
    let (all, bits) ← runLengths tree total (total + 1) [] bits
    let all := all.reverse
    let literals ← treeOf true (all.take (hlit + 257))
    let distances ← treeOf true (all.drop (hlit + 257))
    .ok (literals, distances, bits)

def block (kind : Nat) (bits : Bits) (out : Array UInt8) : Except Fault (Bits × Array UInt8) :=
  if kind = 0 then stored bits out
  else if kind = 1 then symbols fixedLiterals fixedDistances (bits.length + 1) bits out
  else if kind = 2 then
    match ownCodes bits with
    | .ok (literals, distances, bits) => symbols literals distances (bits.length + 1) bits out
    | .error e => .error e
  else .error .corrupt

/-- Blocks up to the one marked last. -/
def blocks : (fuel : Nat) → Bits → Array UInt8 → Except Fault (Array UInt8)
  | 0, _, _ => .error .incomplete
  | fuel + 1, bits, out =>
    match number 3 bits with
    | .error e => .error e
    | .ok (header, bits) =>
      match block (header / 2) bits out with
      | .error e => .error e
      | .ok (bits, out) => if header % 2 = 1 then .ok out else blocks fuel bits out

end Inflate

/-- The data a deflated byte string stands for. -/
def inflate (bytes : List UInt8) : Except Inflate.Fault (List UInt8) :=
  let bits := Inflate.bitsOf bytes
  (Inflate.blocks (bits.length + 1) bits #[]).map (·.toList)

end ClassSkeleton.Archive

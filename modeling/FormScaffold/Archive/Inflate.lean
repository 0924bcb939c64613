/-!
# Deflated bytes

Deflated bytes are a sequence of blocks.  A block holds bytes as they are, or symbols of a prefix
code that is either given with the block or known to all.  A symbol is a byte, the end of the
block, or a length, after which a distance tells how far back the bytes stand that come again.
What is unpacked so far is kept with the latest byte first.
-/

namespace FormScaffold.Archive.Inflate

/-! ## Bits -/

/-- The bits of bytes, the lowest of each byte first. -/
def bitsOf (bytes : List UInt8) : List Bool :=
  bytes.flatMap fun b => (List.range 8).map b.toNat.testBit

/-- Why unpacking ends before the last block does. -/
inductive Flaw where
  | cutShort
  | corrupt
  deriving DecidableEq, Repr

/-- The next bit. -/
def bit : List Bool → Except Flaw (Bool × List Bool)
  | [] => .error .cutShort
  | b :: rest => .ok (b, rest)

/-- The number in the next bits, whose lowest bit comes first. -/
def number : Nat → List Bool → Except Flaw (Nat × List Bool)
  | 0, bits => .ok (0, bits)
  | width + 1, bits => do
      let (b, bits) ← bit bits
      let (n, bits) ← number width bits
      .ok (b.toNat + 2 * n, bits)

/-! ## Prefix codes

A code is given by the length that each symbol has, zero for one that does not occur.  Codes of
one length are numbers in sequence in the order of their symbols, and each length goes on where
the one before it has ended.
-/

/-- The longest code of a symbol. -/
def longest : Nat := 15

/-- The symbols whose codes have a length. -/
def symbolsOf (lengths : List Nat) (length : Nat) : List Nat :=
  (lengths.zipIdx.filter fun p => p.1 == length).map (·.2)

/-- How many codes of the longest length are left once each symbol has one of its own, or nothing
if there are not enough. -/
def unused? (lengths : List Nat) : Option Nat :=
  let taken := (lengths.filter (· != 0)).foldl (fun n length => n + Nat.pow 2 (longest - length)) 0
  if taken ≤ Nat.pow 2 longest then some (Nat.pow 2 longest - taken) else none

/-- The lengths are those of a code: each string of bits starts with a code, unless there is one
symbol at most. -/
def isCode (lengths : List Nat) : Bool :=
  match unused? lengths with
  | none => false
  | some left => left == 0 || (lengths.filter (· != 0)).length ≤ 1

/-- The next symbol, of which some bits are read: `code` is their number, and `first` that of the
first code with one bit more. -/
def symbolFrom (lengths : List Nat) :
    (tries length code first : Nat) → List Bool → Except Flaw (Nat × List Bool)
  | 0, _, _, _, _ => .error .corrupt
  | tries + 1, length, code, first, bits => do
      let (b, bits) ← bit bits
      let code := 2 * code + b.toNat
      let here := symbolsOf lengths length
      match here[code - first]? with
      | some s => .ok (s, bits)
      | none => symbolFrom lengths tries (length + 1) code (2 * (first + here.length)) bits

/-- The next symbol of a code. -/
def symbol (lengths : List Nat) (bits : List Bool) : Except Flaw (Nat × List Bool) :=
  symbolFrom lengths longest 1 0 0 bits

/-! ## Codes of a block -/

/-- The lengths that everybody knows for bytes, ends and lengths. -/
def knownLengths : List Nat :=
  List.replicate 144 8 ++ List.replicate 112 9 ++ List.replicate 24 7 ++ List.replicate 8 8

/-- The lengths that everybody knows for distances. -/
def knownDistances : List Nat := List.replicate 32 5

/-- The order in which the lengths of the code for lengths are given. -/
def lengthOrder : List Nat := [16, 17, 18, 0, 8, 7, 9, 6, 10, 5, 11, 4, 12, 3, 13, 2, 14, 1, 15]

/-- Some numbers of three bits. -/
def smallNumbers : Nat → List Bool → Except Flaw (List Nat × List Bool)
  | 0, bits => .ok ([], bits)
  | n + 1, bits => do
      let (x, bits) ← number 3 bits
      let (rest, bits) ← smallNumbers n bits
      .ok (x :: rest, bits)

/-- The lengths of codes, `known` of them given already with the last first.  A symbol is a length,
or tells how often the last one or zero comes again. -/
def lengthsFrom (code : List Nat) (count : Nat) :
    (fuel : Nat) → (known : List Nat) → List Bool → Except Flaw (List Nat × List Bool)
  | 0, _, _ => .error .cutShort
  | fuel + 1, known, bits =>
      if known.length == count then .ok (known.reverse, bits)
      else if count < known.length then .error .corrupt
      else do
        let (s, bits) ← symbol code bits
        match s, known with
        | 16, [] => .error .corrupt
        | 16, last :: _ =>
            let (n, bits) ← number 2 bits
            lengthsFrom code count fuel (List.replicate (n + 3) last ++ known) bits
        | 17, _ =>
            let (n, bits) ← number 3 bits
            lengthsFrom code count fuel (List.replicate (n + 3) 0 ++ known) bits
        | 18, _ =>
            let (n, bits) ← number 7 bits
            lengthsFrom code count fuel (List.replicate (n + 11) 0 ++ known) bits
        | _, _ => lengthsFrom code count fuel (s :: known) bits

/-- The two codes that are given with a block. -/
def givenCodes (bits : List Bool) : Except Flaw ((List Nat × List Nat) × List Bool) := do
  let (lengths, bits) ← number 5 bits
  let (distances, bits) ← number 5 bits
  let (small, bits) ← number 4 bits
  let (given, bits) ← smallNumbers (small + 4) bits
  let pairs := lengthOrder.zip given
  let code := (List.range lengthOrder.length).map fun s => (pairs.lookup s).getD 0
  if !isCode code then .error .corrupt
  else
    let count := lengths + 257 + (distances + 1)
    let (all, bits) ← lengthsFrom code count (bits.length + 1) [] bits
    let (forLengths, forDistances) := all.splitAt (lengths + 257)
    if isCode forLengths && isCode forDistances then .ok ((forLengths, forDistances), bits)
    else .error .corrupt

/-! ## Symbols of a block -/

/-- For each symbol of a length, the least length that it stands for and how many bits add to
it. -/
def lengthBases : List (Nat × Nat) :=
  [(3, 0), (4, 0), (5, 0), (6, 0), (7, 0), (8, 0), (9, 0), (10, 0), (11, 1), (13, 1), (15, 1),
    (17, 1), (19, 2), (23, 2), (27, 2), (31, 2), (35, 3), (43, 3), (51, 3), (59, 3), (67, 4),
    (83, 4), (99, 4), (115, 4), (131, 5), (163, 5), (195, 5), (227, 5), (258, 0)]

/-- The same for each symbol of a distance. -/
def distanceBases : List (Nat × Nat) :=
  [(1, 0), (2, 0), (3, 0), (4, 0), (5, 1), (7, 1), (9, 2), (13, 2), (17, 3), (25, 3), (33, 4),
    (49, 4), (65, 5), (97, 5), (129, 6), (193, 6), (257, 7), (385, 7), (513, 8), (769, 8),
    (1025, 9), (1537, 9), (2049, 10), (3073, 10), (4097, 11), (6145, 11), (8193, 12), (12289, 12),
    (16385, 13), (24577, 13)]

/-- The number that a symbol and the bits after it stand for. -/
def based (bases : List (Nat × Nat)) (s : Nat) (bits : List Bool) :
    Except Flaw (Nat × List Bool) :=
  match bases[s]? with
  | none => .error .corrupt
  | some (least, width) => do
      let (n, bits) ← number width bits
      .ok (least + n, bits)

/-- Bytes that stand at a distance come again; before the first byte there are zeros. -/
def again (distance : Nat) : Nat → List UInt8 → List UInt8
  | 0, out => out
  | n + 1, out => again distance n (out.getD (distance - 1) 0 :: out)

/-- Where unpacking stands: the bits that are left or why it has ended, and what is unpacked. -/
structure Progress where
  left : Except Flaw (List Bool)
  out : List UInt8

/-- The symbol for the end of a block. -/
def endSymbol : Nat := 256

/-- What one symbol stands for: nothing at the end of the block, or more bytes. -/
def step (lengths distances : List Nat) (bits : List Bool) (out : List UInt8) :
    Except Flaw (Option (List UInt8) × List Bool) := do
  let (s, bits) ← symbol lengths bits
  if s < endSymbol then .ok (some (UInt8.ofNat s :: out), bits)
  else if s == endSymbol then .ok (none, bits)
  else
    let (length, bits) ← based lengthBases (s - endSymbol - 1) bits
    let (d, bits) ← symbol distances bits
    let (distance, bits) ← based distanceBases d bits
    .ok (some (again distance length out), bits)

/-- The symbols of a block up to its end. -/
def symbols (lengths distances : List Nat) :
    (fuel : Nat) → List Bool → List UInt8 → Progress
  | 0, _, out => ⟨.error .cutShort, out⟩
  | fuel + 1, bits, out =>
      match step lengths distances bits out with
      | .error flaw => ⟨.error flaw, out⟩
      | .ok (none, bits) => ⟨.ok bits, out⟩
      | .ok (some out, bits) => symbols lengths distances fuel bits out

/-! ## Blocks -/

/-- Some bytes as they are. -/
def plainBytes : Nat → List Bool → List UInt8 → Progress
  | 0, bits, out => ⟨.ok bits, out⟩
  | n + 1, bits, out =>
      match number 8 bits with
      | .error flaw => ⟨.error flaw, out⟩
      | .ok (b, bits) => plainBytes n bits (UInt8.ofNat b :: out)

/-- A block of bytes as they are: it starts with the next whole byte and tells its length twice,
the second time with all bits turned. -/
def plainBlock (bits : List Bool) (out : List UInt8) : Progress :=
  let header := do
    let (n, bits) ← number 16 (bits.drop (bits.length % 8))
    let (turned, bits) ← number 16 bits
    if n + turned == 0xFFFF then .ok (n, bits) else .error .corrupt
  match header with
  | .error flaw => ⟨.error flaw, out⟩
  | .ok (n, bits) => plainBytes n bits out

/-- A block whose codes are given with it. -/
def codedBlock (bits : List Bool) (out : List UInt8) : Progress :=
  match givenCodes bits with
  | .error flaw => ⟨.error flaw, out⟩
  | .ok ((lengths, distances), bits) => symbols lengths distances (bits.length + 1) bits out

/-- A block of a kind. -/
def block (kind : Nat) (bits : List Bool) (out : List UInt8) : Progress :=
  match kind with
  | 0 => plainBlock bits out
  | 1 => symbols knownLengths knownDistances (bits.length + 1) bits out
  | 2 => codedBlock bits out
  | _ => ⟨.error .corrupt, out⟩

/-- Whether a block is the last one, and its kind. -/
def header (bits : List Bool) : Except Flaw ((Bool × Nat) × List Bool) := do
  let (last, bits) ← bit bits
  let (kind, bits) ← number 2 bits
  .ok ((last, kind), bits)

/-- Blocks up to the last one. -/
def blocks : (fuel : Nat) → List Bool → List UInt8 → Progress
  | 0, _, out => ⟨.error .cutShort, out⟩
  | fuel + 1, bits, out =>
      match header bits with
      | .error flaw => ⟨.error flaw, out⟩
      | .ok ((last, kind), bits) =>
          match block kind bits out with
          | ⟨.ok bits, out⟩ => if last then ⟨.ok bits, out⟩ else blocks fuel bits out
          | ended => ended

end FormScaffold.Archive.Inflate

namespace FormScaffold.Archive

/-- What is unpacked from deflated bytes, and what ends that before the last block does. -/
def inflate (bytes : List UInt8) : List UInt8 × Option Inflate.Flaw :=
  let bits := Inflate.bitsOf bytes
  let p := Inflate.blocks (bits.length + 1) bits []
  (p.out.reverse, match p.left with | .ok _ => none | .error flaw => some flaw)

end FormScaffold.Archive

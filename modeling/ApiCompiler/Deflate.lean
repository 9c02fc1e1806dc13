/-!
# Compressed data

Compressed data is a row of blocks. A block holds bytes as they are, or symbols of prefix codes that
stand for bytes and for repetitions of bytes before them. Data that ends early gives the bytes that
it has so far. It may be wrapped in a header and a checksum, or in the larger ones of a file.

Bits are read from bytes, the lowest bit of a byte first. The symbols of a prefix code are given by
the lengths of their codewords: codewords of one length follow each other in the order of their
symbols, and longer ones come after shorter ones.
-/

namespace ApiCompiler.Deflate

/-! ## Prefix codes -/

/-- Why compressed data cannot be read. -/
inductive Fault where
  | header
  | method
  | window
  | blockType
  | storedLength
  | tooManySymbols
  | lengthsCode
  | repetition
  | noEnd
  | literalCode
  | distanceCode
  | literal
  | distance
  | tooFarBack
  | dictionary
  | checksum
  | flags
  | headerChecksum
  | length
  deriving DecidableEq

/-- Why the reading of bits stops: the data has ended, or it is faulty. -/
inductive Stop where
  | ended
  | fault (fault : Fault)

/-- The bits of a byte, the lowest one first. -/
def bitsOf (byte : UInt8) : List Bool :=
  (List.range 8).map fun i ↦ byte.toNat.testBit i

/-- The number in the next bits, the lowest bit first, and the bits after it. -/
def takeBits : (count : Nat) → List Bool → Except Stop (Nat × List Bool)
  | 0, bits => .ok (0, bits)
  | _ + 1, [] => .error .ended
  | count + 1, bit :: rest => do
    let (n, rest) ← takeBits count rest
    return (bit.toNat + 2 * n, rest)

/-- A prefix code. -/
structure Code where
  /-- How many codewords there are of each length, from one bit on. -/
  counts : List Nat
  /-- The symbols in the order of their codewords. -/
  symbols : Array Nat

namespace Code

/-- The most bits of a codeword. -/
def maxLength : Nat := 15

/-- The code in which each symbol has a codeword of some length; a length of zero stands for no
codeword. -/
def ofLengths (lengths : List Nat) : Code :=
  let longest := lengths.foldl max 1
  let symbolsOf (length : Nat) : List Nat :=
    lengths.zipIdx.filterMap fun (l, symbol) ↦ if l == length then some symbol else none
  let groups := (List.range longest).map fun i ↦ symbolsOf (i + 1)
  ⟨groups.map List.length, groups.flatten.toArray⟩

/-- The codewords that are left beside those of a code, in units of the longest ones; nothing when
there are too many codewords. -/
def unused? (code : Code) : Option Nat :=
  code.counts.foldl
    (fun left count ↦ left.bind fun left ↦
      if count ≤ 2 * left then some (2 * left - count) else none)
    (some 1)

/-- Whether a code has no codewords. -/
def isEmpty (code : Code) : Bool :=
  code.symbols.isEmpty

/-- Whether every row of bits begins with a codeword, or there are no codewords at all. -/
def isComplete (code : Code) : Bool :=
  code.isEmpty || code.unused? == some 0

/-- Whether a code is complete or has a single codeword of one bit. -/
def isUsable (code : Code) : Bool :=
  code.isComplete || code.counts == [1]

/-- The symbol of the codeword at the front of bits, and the bits after it. Codewords of a length
begin at `first`, their symbols at `index`. Bits that begin no codeword give no symbol. -/
def readFrom (symbols : Array Nat) : (counts : List Nat) → (word first index : Nat) → List Bool →
    Except Stop (Option Nat × List Bool)
  | [], _, _, _, bits => .ok (none, bits)
  | _ :: _, _, _, _, [] => .error .ended
  | count :: counts, word, first, index, bit :: rest =>
    let word := 2 * word + bit.toNat
    if word < first + count then .ok (symbols[index + (word - first)]?, rest)
    else readFrom symbols counts word (2 * (first + count)) (index + count) rest

/-- The symbol of the codeword at the front of bits, and the bits after it. -/
def read (code : Code) (bits : List Bool) : Except Stop (Option Nat × List Bool) :=
  readFrom code.symbols code.counts 0 0 0 bits

end Code

/-! ## Blocks -/

/-- The text of a fault. -/
def Fault.message : Fault → String
  | header => "Error -3 while decompressing data: incorrect header check"
  | method => "Error -3 while decompressing data: unknown compression method"
  | window => "Error -3 while decompressing data: invalid window size"
  | blockType => "Error -3 while decompressing data: invalid block type"
  | storedLength => "Error -3 while decompressing data: invalid stored block lengths"
  | tooManySymbols => "Error -3 while decompressing data: too many length or distance symbols"
  | lengthsCode => "Error -3 while decompressing data: invalid code lengths set"
  | repetition => "Error -3 while decompressing data: invalid bit length repeat"
  | noEnd => "Error -3 while decompressing data: invalid code -- missing end-of-block"
  | literalCode => "Error -3 while decompressing data: invalid literal/lengths set"
  | distanceCode => "Error -3 while decompressing data: invalid distances set"
  | literal => "Error -3 while decompressing data: invalid literal/length code"
  | distance => "Error -3 while decompressing data: invalid distance code"
  | tooFarBack => "Error -3 while decompressing data: invalid distance too far back"
  | dictionary => "Error 2 while decompressing data"
  | checksum => "Error -3 while decompressing data: incorrect data check"
  | flags => "Error -3 while decompressing data: unknown header flags set"
  | headerChecksum => "Error -3 while decompressing data: header crc mismatch"
  | length => "Error -3 while decompressing data: incorrect length check"

/-- The two codes of a block: for literals and lengths, and for distances. -/
structure Codes where
  literals : Code
  distances : Code

/-- The codes of a block that does not bring its own. -/
def Codes.fixed : Codes :=
  ⟨.ofLengths (List.replicate 144 8 ++ List.replicate 112 9 ++ List.replicate 24 7 ++
    List.replicate 8 8), .ofLengths (List.replicate 32 5)⟩

/-- The least lengths of the symbols for lengths, with the numbers of bits that may add to them. -/
def lengthBases : List (Nat × Nat) :=
  [(3, 0), (4, 0), (5, 0), (6, 0), (7, 0), (8, 0), (9, 0), (10, 0), (11, 1), (13, 1), (15, 1),
   (17, 1), (19, 2), (23, 2), (27, 2), (31, 2), (35, 3), (43, 3), (51, 3), (59, 3), (67, 4),
   (83, 4), (99, 4), (115, 4), (131, 5), (163, 5), (195, 5), (227, 5), (258, 0)]

/-- The least distances of the symbols for distances, with the numbers of bits that may add to
them. -/
def distanceBases : List (Nat × Nat) :=
  [(1, 0), (2, 0), (3, 0), (4, 0), (5, 1), (7, 1), (9, 2), (13, 2), (17, 3), (25, 3), (33, 4),
   (49, 4), (65, 5), (97, 5), (129, 6), (193, 6), (257, 7), (385, 7), (513, 8), (769, 8), (1025, 9),
   (1537, 9), (2049, 10), (3073, 10), (4097, 11), (6145, 11), (8193, 12), (12289, 12), (16385, 13),
   (24577, 13)]

/-- The number that a symbol and the bits after it stand for. -/
def readBased (bases : List (Nat × Nat)) (fault : Fault) (symbol : Nat) (bits : List Bool) :
    Except Stop (Nat × List Bool) :=
  match bases[symbol]? with
  | none => .error (.fault fault)
  | some (base, count) => do
    let (more, bits) ← takeBits count bits
    return (base + more, bits)

/-- Bytes with some of them repeated: `length` bytes from a distance before the end. -/
def repeatBytes (output : Array UInt8) (distance : Nat) : (length : Nat) → Array UInt8
  | 0 => output
  | length + 1 =>
    repeatBytes (output.push (output.getD (output.size - distance) 0)) distance length

/-- What a symbol stands for: a byte, the end of the block or a repetition. -/
inductive Step where
  | byte (byte : UInt8)
  | finish
  | again (length distance : Nat)

/-- The next step of a block, and the bits after it. -/
def readStep (codes : Codes) (bits : List Bool) : Except Stop (Step × List Bool) := do
  match ← codes.literals.read bits with
  | (none, _) => throw (.fault .literal)
  | (some symbol, bits) =>
    if symbol < 256 then return (.byte symbol.toUInt8, bits)
    else if symbol == 256 then return (.finish, bits)
    else
      let (length, bits) ← readBased lengthBases .literal (symbol - 257) bits
      match ← codes.distances.read bits with
      | (none, _) => throw (.fault .distance)
      | (some symbol, bits) =>
        let (distance, bits) ← readBased distanceBases .distance symbol bits
        return (.again length distance, bits)

/-- The bytes after a block of at most some number of steps, and the bits after the block. -/
def readSteps (codes : Codes) : (fuel : Nat) → List Bool → Array UInt8 →
    Array UInt8 × Except Stop (List Bool)
  | 0, _, output => (output, .error .ended)
  | fuel + 1, bits, output =>
    match readStep codes bits with
    | .error stop => (output, .error stop)
    | .ok (.byte byte, bits) => readSteps codes fuel bits (output.push byte)
    | .ok (.finish, bits) => (output, .ok bits)
    | .ok (.again length distance, bits) =>
      if output.size < distance then (output, .error (.fault .tooFarBack))
      else readSteps codes fuel bits (repeatBytes output distance length)

/-- The bytes after a block that holds them as they are, and the bits after the block. -/
def readStored : (count : Nat) → List Bool → Array UInt8 → Array UInt8 × Except Stop (List Bool)
  | 0, bits, output => (output, .ok bits)
  | count + 1, bits, output =>
    match takeBits 8 bits with
    | .ok (byte, bits) => readStored count bits (output.push byte.toUInt8)
    | .error stop => (output, .error stop)

/-- The length of a block that holds bytes as they are, and the bits after it. -/
def readStoredLength (bits : List Bool) : Except Stop (Nat × List Bool) := do
  let (length, bits) ← takeBits 16 (bits.drop (bits.length % 8))
  let (check, bits) ← takeBits 16 bits
  if length + check == 0xffff then return (length, bits) else throw (.fault .storedLength)

/-- The order in which the lengths of the code for lengths are written. -/
def lengthsOrder : List Nat :=
  [16, 17, 18, 0, 8, 7, 9, 6, 10, 5, 11, 4, 12, 3, 13, 2, 14, 1, 15]

/-- Some numbers of three bits each, and the bits after them. -/
def takeThrees : (count : Nat) → List Bool → Except Stop (List Nat × List Bool)
  | 0, bits => .ok ([], bits)
  | count + 1, bits => do
    let (n, bits) ← takeBits 3 bits
    let (rest, bits) ← takeThrees count bits
    return (n :: rest, bits)

/-- How many times a length is repeated that a symbol stands for, which length that is, and the bits
after it. The lengths so far are given last first. -/
def readRepetition (done : List Nat) (symbol : Nat) (bits : List Bool) :
    Except Stop (Nat × Nat × List Bool) := do
  if symbol < 16 then return (1, symbol, bits)
  else if symbol == 16 then
    let (count, bits) ← takeBits 2 bits
    match done.head? with
    | some length => return (3 + count, length, bits)
    | none => throw (.fault .repetition)
  else if symbol == 17 then
    let (count, bits) ← takeBits 3 bits
    return (3 + count, 0, bits)
  else
    let (count, bits) ← takeBits 7 bits
    return (11 + count, 0, bits)

/-- Some number of lengths, last first, and the bits after them. Bits that begin no codeword stand
for a length of zero. -/
def readLengths (code : Code) (total : Nat) : (fuel : Nat) → (done : List Nat) → List Bool →
    Except Stop (List Nat × List Bool)
  | 0, done, bits => .ok (done, bits)
  | fuel + 1, done, bits =>
    if total ≤ done.length then .ok (done, bits)
    else do
      let (symbol, bits) ← code.read bits
      let (count, length, bits) ← readRepetition done (symbol.getD 0) bits
      if total < done.length + count then throw (.fault .repetition)
      readLengths code total fuel (List.replicate count length ++ done) bits

/-- The codes at the beginning of a block that brings its own, and the bits after them. -/
def readCodes (bits : List Bool) : Except Stop (Codes × List Bool) := do
  let (literalCount, bits) ← takeBits 5 bits
  let (distanceCount, bits) ← takeBits 5 bits
  let (orderCount, bits) ← takeBits 4 bits
  let literalCount := literalCount + 257
  let distanceCount := distanceCount + 1
  if 286 < literalCount || 30 < distanceCount then throw (.fault .tooManySymbols)
  let (written, bits) ← takeThrees (orderCount + 4) bits
  let lengths := (List.range 19).map fun symbol ↦
    ((lengthsOrder.zip written).lookup symbol).getD 0
  let code := Code.ofLengths lengths
  if !code.isComplete then throw (.fault .lengthsCode)
  let total := literalCount + distanceCount
  let (lengths, bits) ← readLengths code total total [] bits
  let lengths := lengths.reverse
  if lengths[256]?.getD 0 == 0 then throw (.fault .noEnd)
  let literals := Code.ofLengths (lengths.take literalCount)
  let distances := Code.ofLengths (lengths.drop literalCount)
  if !literals.isUsable then throw (.fault .literalCode)
  if !distances.isUsable then throw (.fault .distanceCode)
  return (⟨literals, distances⟩, bits)

/-- The bytes after a block of a type, and the bits after the block. -/
def readBlock (type : Nat) (bits : List Bool) (output : Array UInt8) :
    Array UInt8 × Except Stop (List Bool) :=
  match type with
  | 0 =>
    match readStoredLength bits with
    | .ok (length, bits) => readStored length bits output
    | .error stop => (output, .error stop)
  | 1 => readSteps .fixed (bits.length + 1) bits output
  | 2 =>
    match readCodes bits with
    | .ok (codes, bits) => readSteps codes (bits.length + 1) bits output
    | .error stop => (output, .error stop)
  | _ => (output, .error (.fault .blockType))

/-- The bytes after at most some number of blocks, and the bits after the last block. -/
def readBlocks : (fuel : Nat) → List Bool → Array UInt8 → Array UInt8 × Except Stop (List Bool)
  | 0, _, output => (output, .error .ended)
  | fuel + 1, bits, output =>
    match takeBits 3 bits with
    | .error stop => (output, .error stop)
    | .ok (head, bits) =>
      match readBlock (head / 2) bits output with
      | (output, .ok bits) =>
        if head % 2 == 1 then (output, .ok bits) else readBlocks fuel bits output
      | (output, .error stop) => (output, .error stop)

/-- The bytes that bits stand for. -/
def inflateBits (bits : List Bool) : Array UInt8 × Except Stop (List Bool) :=
  readBlocks (bits.length + 1) bits #[]

/-- The bytes that data without a header stands for. -/
def inflate (data : List UInt8) : Except Fault (List UInt8) :=
  match inflateBits (data.flatMap bitsOf) with
  | (_, .error (.fault fault)) => .error fault
  | (output, _) => .ok output.toList

/-- The checksum of bytes: their sum, and the sum of the sums, each modulo a prime. -/
def checksum (bytes : List UInt8) : Nat :=
  let (a, b) := bytes.foldl
    (fun (a, b) byte ↦
      let a := (a + byte.toNat) % 65521
      (a, (b + a) % 65521))
    (1, 0)
  b * 65536 + a

/-- What is wrong with the two bytes of a header. -/
def headerFault? (first second : UInt8) : Option Fault :=
  if (first.toNat * 256 + second.toNat) % 31 != 0 then some .header
  else if first.toNat % 16 != 8 then some .method
  else if 7 < first.toNat / 16 then some .window
  else if second.toNat.testBit 5 then some .dictionary
  else none

/-- The bytes before the checksum, whose four bytes come highest first. -/
def checkEnd (output : List UInt8) (bits : List Bool) : Except Fault (List UInt8) :=
  match takeBits 32 (bits.drop (bits.length % 8)) with
  | .error _ => .ok output
  | .ok (written, _) =>
    let sum := (written % 256) * 16777216 + (written / 256 % 256) * 65536 +
      (written / 65536 % 256) * 256 + written / 16777216
    if sum == checksum output then .ok output else .error .checksum

/-- The bytes that data with a header and a checksum stands for. -/
def inflateWrapped : List UInt8 → Except Fault (List UInt8)
  | first :: second :: rest =>
    match headerFault? first second with
    | some .dictionary => if rest.length < 4 then .ok [] else .error .dictionary
    | some fault => .error fault
    | none =>
      match inflateBits (rest.flatMap bitsOf) with
      | (_, .error (.fault fault)) => .error fault
      | (output, .error .ended) => .ok output.toList
      | (output, .ok bits) => checkEnd output.toList bits
  | _ => .ok []

/-- The bytes that data stands for, with a header or without. -/
def inflateAny (data : List UInt8) : Except Fault (List UInt8) :=
  match inflateWrapped data with
  | .ok bytes => .ok bytes
  | .error _ => inflate data

/-! ## Files -/

/-- A step of the cyclic checksum for one bit. -/
def cyclicStep (sum : Nat) : Nat :=
  if sum % 2 == 1 then (sum / 2) ^^^ 0xedb88320 else sum / 2

/-- The cyclic checksum of bytes. -/
def cyclicChecksum (bytes : List UInt8) : Nat :=
  let step (sum : Nat) (byte : UInt8) : Nat :=
    (List.range 8).foldl (fun sum _ ↦ cyclicStep sum) (sum ^^^ byte.toNat)
  (bytes.foldl step 0xffffffff) ^^^ 0xffffffff

/-- A number whose lowest byte comes first. -/
def lowFirst (bytes : List UInt8) : Nat :=
  bytes.foldr (fun byte n ↦ byte.toNat + 256 * n) 0

/-- The bytes after a text that ends with a null byte, if it ends. -/
def skipText? (bytes : List UInt8) : Option (List UInt8) :=
  match bytes.dropWhile (· != 0) with
  | _ :: rest => some rest
  | [] => none

/-- The bytes after the parts of a header that its flags announce, if the header ends. -/
def skipParts? (flags : UInt8) (rest : List UInt8) : Option (List UInt8) := do
  let rest ←
    if flags.toNat.testBit 2 then
      let length := lowFirst (rest.take 2)
      if rest.length < 2 + length then none else some (rest.drop (2 + length))
    else some rest
  let rest ← if flags.toNat.testBit 3 then skipText? rest else some rest
  if flags.toNat.testBit 4 then skipText? rest else some rest

/-- The bytes of the header of a file after which its data comes, if the header ends. -/
def skipHeader (data : List UInt8) (flags : UInt8) : Except Stop (List UInt8) :=
  match if data.length < 10 then none else skipParts? flags (data.drop 10) with
  | none => .error .ended
  | some rest =>
    if flags.toNat.testBit 1 then
      let header := data.take (data.length - rest.length)
      if rest.length < 2 then .error .ended
      else if lowFirst (rest.take 2) == cyclicChecksum header % 65536 then .ok (rest.drop 2)
      else .error (.fault .headerChecksum)
    else .ok rest

/-- The bytes of a file before the checksum and the length at its end. -/
def checkFileEnd (output : List UInt8) (bits : List Bool) : Except Fault (List UInt8) :=
  match takeBits 32 (bits.drop (bits.length % 8)) with
  | .error _ => .ok output
  | .ok (sum, bits) =>
    if sum != cyclicChecksum output then .error .checksum
    else
      match takeBits 32 bits with
      | .error _ => .ok output
      | .ok (length, _) =>
        if length == output.length % 4294967296 then .ok output else .error .length

/-- The bytes that a compressed file stands for. -/
def inflateFile (data : List UInt8) : Except Fault (List UInt8) :=
  match data with
  | 0x1f :: 0x8b :: method :: flags :: _ =>
    if method != 8 then .error .method
    else if 32 ≤ flags.toNat then .error .flags
    else
      match skipHeader data flags with
      | .error (.fault fault) => .error fault
      | .error .ended => .ok []
      | .ok rest =>
        match inflateBits (rest.flatMap bitsOf) with
        | (_, .error (.fault fault)) => .error fault
        | (output, .error .ended) => .ok output.toList
        | (output, .ok bits) => checkFileEnd output.toList bits
  | first :: second :: _ => if first == 0x1f && second == 0x8b then .ok [] else .error .header
  | _ => .ok []

end ApiCompiler.Deflate

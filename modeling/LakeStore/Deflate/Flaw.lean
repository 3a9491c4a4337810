/-!
What can be wrong with compressed data.
-/

namespace LakeStore.Deflate

/-- A flaw of compressed data. -/
inductive Flaw where
  /-- The first bytes are not those of a header. -/
  | header
  | method
  | windowSize
  | headerFlags
  | headerSum
  /-- The data can only be read with a dictionary that is not at hand. -/
  | dictionary
  | blockKind
  | storedLength
  | tooManySymbols
  /-- The lengths of codes, for the lengths that follow, make up no code. -/
  | lengthCodes
  /-- A length is repeated that was never given, or more often than there is room for. -/
  | repetition
  | noEndOfBlock
  | literalCodes
  | distanceCodes
  | literal
  | distance
  /-- A copy starts before the first byte. -/
  | tooFarBack
  | sum
  | length
  deriving DecidableEq, Repr

namespace Flaw

/-- The words for a flaw, if it has any. -/
def words : Flaw → Option String
  | .header => some "incorrect header check"
  | .method => some "unknown compression method"
  | .windowSize => some "invalid window size"
  | .headerFlags => some "unknown header flags set"
  | .headerSum => some "header crc mismatch"
  | .dictionary => none
  | .blockKind => some "invalid block type"
  | .storedLength => some "invalid stored block lengths"
  | .tooManySymbols => some "too many length or distance symbols"
  | .lengthCodes => some "invalid code lengths set"
  | .repetition => some "invalid bit length repeat"
  | .noEndOfBlock => some "invalid code -- missing end-of-block"
  | .literalCodes => some "invalid literal/lengths set"
  | .distanceCodes => some "invalid distances set"
  | .literal => some "invalid literal/length code"
  | .distance => some "invalid distance code"
  | .tooFarBack => some "invalid distance too far back"
  | .sum => some "incorrect data check"
  | .length => some "incorrect length check"

/-- A flaw in words, with the number of its kind: data that is wrong, or a dictionary that is missing. -/
def message (f : Flaw) : String :=
  match f.words with
  | some words => "Error -3 while decompressing data: " ++ words
  | none => "Error 2 while decompressing data"

end Flaw

end LakeStore.Deflate

/-!
# Fingerprints

A fingerprint is a word of 64 bits that stands for a text. It takes up the UTF-8
bytes of the text one by one: each is joined to the word by exclusive or, and the
word is then multiplied by a prime. Different texts can have one fingerprint, so
whatever is kept by fingerprint is shared between such texts.
-/

namespace Standby.Metrics

/-- The fingerprint of the empty text. -/
def emptyFingerprint : UInt64 := 0xCBF29CE484222325

/-- The prime by which a fingerprint is multiplied after each byte. -/
def fingerprintPrime : UInt64 := 0x100000001B3

/-- Take up one byte. -/
def absorb (word : UInt64) (byte : UInt8) : UInt64 := (word ^^^ byte.toUInt64) * fingerprintPrime

/-- The fingerprint of a text. -/
def fingerprint (text : String) : UInt64 := text.toUTF8.data.foldl absorb emptyFingerprint

end Standby.Metrics

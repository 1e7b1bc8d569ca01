import CallGraph.Archive.Inflate.BitStream

/-!
# Canonical prefix codes

A canonical code is given by the length of the code word of each symbol.  The words of one length
are consecutive numbers, in the order of their symbols, and follow on those of smaller length.  So
a word is read by going down the lengths and keeping how far it lies behind the first word of its
length.
-/

namespace CallGraph

namespace Inflate

/-- A code: the symbols of each length, from length 1 on. -/
structure PrefixCode where
  levels : List (Array Nat)
  deriving DecidableEq, Repr

namespace PrefixCode

/-- Reads a word.  `offset` is how far it lies behind the words of smaller length so far. -/
def decodeFrom (offset : Nat) : List (Array Nat) → BitStream → Except Fault (Nat × BitStream)
  | [], _ => .error .corrupt
  | symbols :: longer, stream =>
    match stream.bit with
    | .error fault => .error fault
    | .ok (bit, stream) =>
      let place := 2 * offset + bit.toNat
      if place < symbols.size then .ok (symbols.getD place 0, stream)
      else decodeFrom (place - symbols.size) longer stream

/-- Reads the word of a symbol. -/
def decode (code : PrefixCode) (stream : BitStream) : Except Fault (Nat × BitStream) :=
  decodeFrom 0 code.levels stream

/-- The longest of the given lengths, at least 1. -/
def longest (lengths : List Nat) : Nat :=
  lengths.foldl max 1

/-- The symbols whose words have a given length. -/
def symbolsOfLength (lengths : List Nat) (length : Nat) : Array Nat :=
  (lengths.zipIdx.filterMap fun (own, symbol) =>
    if own = length then some symbol else none).toArray

/-- The code with the given lengths; symbols of length 0 have no word. -/
def ofLengths (lengths : List Nat) : PrefixCode :=
  ⟨(List.range' 1 (longest lengths)).map (symbolsOfLength lengths)⟩

/-- How many words of the greatest length are not given to any symbol, or nothing if there are
more symbols than words. -/
def spareFrom (spare : Nat) : List (Array Nat) → Option Nat
  | [] => some spare
  | symbols :: longer =>
    if symbols.size ≤ 2 * spare then spareFrom (2 * spare - symbols.size) longer else none

/-- How many words of the greatest length a code leaves unused, if it is a code at all. -/
def spare? (code : PrefixCode) : Option Nat :=
  spareFrom 1 code.levels

/-- The code of literals or of distances: all words are used, except that a single symbol has a
word of one bit. -/
def ofLengths? (lengths : List Nat) : Except Fault PrefixCode :=
  let code := ofLengths lengths
  match code.spare? with
  | none => .error .corrupt
  | some spare =>
    if spare = 0 ∨ longest lengths = 1 then .ok code else .error .corrupt

/-- The code of code lengths: all words are used, or there are none and every bit means 0. -/
def ofLengthLengths? (lengths : List Nat) : Except Fault PrefixCode :=
  if lengths.all (· == 0) then .ok ⟨[#[0, 0]]⟩
  else
    let code := ofLengths lengths
    if code.spare? = some 0 then .ok code else .error .corrupt

theorem size_of_decodeFrom {levels : List (Array Nat)} {offset symbol : Nat}
    {stream rest : BitStream} (read : decodeFrom offset levels stream = .ok (symbol, rest)) :
    rest.size < stream.size := by
  induction levels generalizing offset stream with
  | nil => cases read
  | cons symbols longer ih =>
      unfold decodeFrom at read
      split at read
      · cases read
      · rename_i bit later found
        have := BitStream.size_of_bit found
        simp only at read
        split at read
        · simp only [Except.ok.injEq, Prod.mk.injEq] at read
          rw [← read.2]
          omega
        · have := ih read
          omega

theorem size_of_decode {code : PrefixCode} {symbol : Nat} {stream rest : BitStream}
    (read : code.decode stream = .ok (symbol, rest)) : rest.size < stream.size :=
  size_of_decodeFrom read

end PrefixCode

end Inflate

end CallGraph

import Ksa64.Library.Bytes

/-!
# SHA-256

The digest that seals a session bundle, as the source computes it: pad, cut into
blocks of 64 bytes, and fold the compression over them.
-/

namespace Ksa64.Session

open Ksa64.Library

def sha256K : Vector UInt32 64 :=
  #v[0x428a2f98, 0x71374491, 0xb5c0fbcf, 0xe9b5dba5, 0x3956c25b, 0x59f111f1, 0x923f82a4,
    0xab1c5ed5, 0xd807aa98, 0x12835b01, 0x243185be, 0x550c7dc3, 0x72be5d74, 0x80deb1fe,
    0x9bdc06a7, 0xc19bf174, 0xe49b69c1, 0xefbe4786, 0x0fc19dc6, 0x240ca1cc, 0x2de92c6f,
    0x4a7484aa, 0x5cb0a9dc, 0x76f988da, 0x983e5152, 0xa831c66d, 0xb00327c8, 0xbf597fc7,
    0xc6e00bf3, 0xd5a79147, 0x06ca6351, 0x14292967, 0x27b70a85, 0x2e1b2138, 0x4d2c6dfc,
    0x53380d13, 0x650a7354, 0x766a0abb, 0x81c2c92e, 0x92722c85, 0xa2bfe8a1, 0xa81a664b,
    0xc24b8b70, 0xc76c51a3, 0xd192e819, 0xd6990624, 0xf40e3585, 0x106aa070, 0x19a4c116,
    0x1e376c08, 0x2748774c, 0x34b0bcb5, 0x391c0cb3, 0x4ed8aa4a, 0x5b9cca4f, 0x682e6ff3,
    0x748f82ee, 0x78a5636f, 0x84c87814, 0x8cc70208, 0x90befffa, 0xa4506ceb, 0xbef9a3f7,
    0xc67178f2]

/-- The eight working words. -/
structure Sha256State where
  a : UInt32
  b : UInt32
  c : UInt32
  d : UInt32
  e : UInt32
  f : UInt32
  g : UInt32
  h : UInt32
deriving DecidableEq

def sha256Initial : Sha256State where
  a := 0x6a09e667
  b := 0xbb67ae85
  c := 0x3c6ef372
  d := 0xa54ff53a
  e := 0x510e527f
  f := 0x9b05688c
  g := 0x1f83d9ab
  h := 0x5be0cd19

def rotateRight (x n : UInt32) : UInt32 := (x >>> n) ||| (x <<< (32 - n))

/-- The word at `index`, from the words before it. -/
def sha256Extend (schedule : List UInt32) (index : Nat) : List UInt32 :=
  let word := fun i ↦ schedule.getD i 0
  let s0 := rotateRight (word (index - 15)) 7 ^^^ rotateRight (word (index - 15)) 18
    ^^^ (word (index - 15) >>> 3)
  let s1 := rotateRight (word (index - 2)) 17 ^^^ rotateRight (word (index - 2)) 19
    ^^^ (word (index - 2) >>> 10)
  schedule ++ [word (index - 16) + s0 + word (index - 7) + s1]

def sha256Schedule (block : List UInt8) : List UInt32 :=
  ((List.range 48).map (· + 16)).foldl sha256Extend
    ((List.range 16).map fun index ↦ readBe32 block (index * 4))

def sha256Round (s : Sha256State) (k w : UInt32) : Sha256State :=
  let sum1 := rotateRight s.e 6 ^^^ rotateRight s.e 11 ^^^ rotateRight s.e 25
  let choice := (s.e &&& s.f) ^^^ (~~~s.e &&& s.g)
  let temporary1 := s.h + sum1 + choice + k + w
  let sum0 := rotateRight s.a 2 ^^^ rotateRight s.a 13 ^^^ rotateRight s.a 22
  let majority := (s.a &&& s.b) ^^^ (s.a &&& s.c) ^^^ (s.b &&& s.c)
  let temporary2 := sum0 + majority
  { a := temporary1 + temporary2
    b := s.a
    c := s.b
    d := s.c
    e := s.d + temporary1
    f := s.e
    g := s.f
    h := s.g }

/-- Compress one block into the state. -/
def sha256Block (state : Sha256State) (block : List UInt8) : Sha256State :=
  let s := (sha256K.toList.zip (sha256Schedule block)).foldl
    (fun s kw ↦ sha256Round s kw.1 kw.2) state
  { a := state.a + s.a
    b := state.b + s.b
    c := state.c + s.c
    d := state.d + s.d
    e := state.e + s.e
    f := state.f + s.f
    g := state.g + s.g
    h := state.h + s.h }

/-- The big-endian bytes of a 64-bit word. -/
def be64 (v : Nat) : List UInt8 := be32 (UInt32.ofNat (v / 2 ^ 32)) ++ be32 (UInt32.ofNat v)

def sha256Padded (input : List UInt8) : List UInt8 :=
  let paddedLength := (input.length + 9 + 63) / 64 * 64
  let padded := List.replicate paddedLength 0
  let padded := splice padded 0 input
  let padded := splice padded input.length [0x80]
  splice padded (paddedLength - 8) (be64 (input.length * 8))

/-- The 32 bytes of the digest. -/
def sha256 (input : List UInt8) : List UInt8 :=
  let padded := sha256Padded input
  let state := (List.range (padded.length / 64)).foldl
    (fun state i ↦ sha256Block state (slice padded (i * 64) (i * 64 + 64))) sha256Initial
  be32 state.a ++ be32 state.b ++ be32 state.c ++ be32 state.d ++ be32 state.e ++ be32 state.f
    ++ be32 state.g ++ be32 state.h

@[simp] theorem length_sha256 (input : List UInt8) : (sha256 input).length = 32 := rfl

/-- The digest of three bytes, a standard vector. -/
example : sha256 [0x61, 0x62, 0x63] =
    [0xba, 0x78, 0x16, 0xbf, 0x8f, 0x01, 0xcf, 0xea, 0x41, 0x41, 0x40, 0xde, 0x5d, 0xae,
      0x22, 0x23, 0xb0, 0x03, 0x61, 0xa3, 0x96, 0x17, 0x7a, 0x9c, 0xb4, 0x10, 0xff, 0x61,
      0xf2, 0x00, 0x15, 0xad] := by decide +kernel

end Ksa64.Session

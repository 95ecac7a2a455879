import ScriptTrace.Instruction

/-!
# Signature verifiers

A run does not know about keys; it asks a `Verifier` which items are signatures and which are public keys, and whether a signature belongs to a key. The placeholder verifier goes by the text of markers: `SIG7` belongs to `PK7`. The others are for trying out scripts.

Whether an item is a signature, and whether it is a key, is always read off `classify`. A verifier that answers these two questions in its own way, at odds with its classification, is not considered.
-/

namespace ScriptTrace

/-- What an item stands for in a signature check. -/
inductive Role where
  | signature | pubkey | neither
  deriving DecidableEq

/-- How signatures and keys are told apart and matched. -/
structure Verifier where
  classify : Instruction → Role
  verify (signature pubkey : Instruction) : Bool

namespace Verifier

def isSignature (v : Verifier) (item : Instruction) : Bool := v.classify item == .signature

def isPubkey (v : Verifier) (item : Instruction) : Bool := v.classify item == .pubkey

/-- What follows the first of the given heads that a marker starts with. -/
def tail? (heads : List String) (item : Instruction) : Option (List Char) :=
  item.marker?.bind fun text => heads.findSome? fun head => head.toList.isPrefixOf? text.toList

def signatureTail? : Instruction → Option (List Char) := tail? ["SIGNATURE", "SIG"]

def pubkeyTail? : Instruction → Option (List Char) := tail? ["PUBKEY", "PK"]

/-- Markers are told apart by how they start, and match if they go on alike. -/
def placeholder : Verifier where
  classify item :=
    if (signatureTail? item).isSome then .signature
    else if (pubkeyTail? item).isSome then .pubkey
    else .neither
  verify signature pubkey :=
    match signatureTail? signature, pubkeyTail? pubkey with
    | some s, some k => s == k
    | _, _ => false

/-- Knows no keys. -/
def rejectAll : Verifier where
  classify _ := .neither
  verify _ _ := false

/-- Takes the marker `SIGNATURE` for a signature, any other marker for a key, and accepts all pairs. -/
def trustAll : Verifier where
  classify item :=
    match item.marker? with
    | some text => if text = "SIGNATURE" then .signature else .pubkey
    | none => .neither
  verify _ _ := true

/-- Goes by lists of signatures, keys and matching pairs; an item in both lists is a signature. -/
def ofTables (signatures pubkeys : List Instruction) (pairs : List (Instruction × Instruction)) :
    Verifier where
  classify item :=
    if signatures.contains item then .signature
    else if pubkeys.contains item then .pubkey
    else .neither
  verify signature pubkey := pairs.contains (signature, pubkey)

end Verifier

end ScriptTrace

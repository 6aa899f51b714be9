import CollectionQuery.Digest

/-!
# Password hashes

A password is held as a hash.  All that a hash tells is whether a password has the same key as the
one that it was made from.  The key of a password is its text as a block of 64 bytes of UTF-8, with
zeros behind it; a longer text is first replaced by its digest.  So two passwords without the
character U+0000 and of at most 64 bytes have the same key only if they are equal.
-/

namespace CollectionQuery

/-- The hash of a password. -/
structure PasswordHash where
  /-- The password that it was made from. -/
  password : String
deriving DecidableEq

namespace PasswordHash

/-- The hash of a password. -/
def of (password : String) : PasswordHash := ⟨password⟩

def keyLength : Nat := 64

def key (password : String) : List UInt8 :=
  let bytes := password.toList.flatMap String.utf8EncodeChar
  let kept := if keyLength < bytes.length then Digest.sha256 bytes else bytes
  kept ++ List.replicate (keyLength - kept.length) 0

/-- Whether a password has the key of the one that the hash was made from. -/
def verifies (h : PasswordHash) (password : String) : Bool := key h.password == key password

end PasswordHash

end CollectionQuery

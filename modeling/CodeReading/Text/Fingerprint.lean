set_option autoImplicit false

namespace CodeReading.Text

def mixByte (hash : UInt64) (byte : UInt8) : UInt64 :=
  (hash ^^^ byte.toUInt64) * 1099511628211

def mixText (hash : UInt64) (text : String) : UInt64 :=
  mixByte (text.toUTF8.foldl mixByte hash) 0xFF

/-- The 64-bit FNV-1a hash of some texts, each closed by a byte that no text contains. -/
def fingerprint (texts : List String) : UInt64 :=
  texts.foldl mixText 14695981039346656037

def shuffle {α : Type} (salt : String) (key : α → String) (items : List α) : List α :=
  let marked := items.map fun item => (fingerprint [salt, key item], key item, item)
  (marked.mergeSort fun a b => a.1 < b.1 || (a.1 == b.1 && a.2.1 ≤ b.2.1)).map (·.2.2)

/-- Items from a place on that depends on `seed`, and then those before it. -/
def rotated {α : Type} (seed : UInt64) (items : List α) : List α :=
  let start := seed.toNat % items.length
  items.drop start ++ items.take start

end CodeReading.Text

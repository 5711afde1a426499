import MintDrop.Text.Base58
import MintDrop.Text.Blank

/-!
# Ledger addresses

An `Address` is 32 bytes, written in base 58.  `Address.parse?` reads the written form with blanks around
it and nothing else.
-/

namespace MintDrop

/-- The place of an account on the ledger. -/
structure Address where
  bytes : Bytes
  length_bytes : bytes.length = 32
  deriving DecidableEq

namespace Address

/-- The address of 32 bytes. -/
def ofBytes? (bs : Bytes) : Option Address :=
  if h : bs.length = 32 then some ⟨bs, h⟩ else none

/-- The address of 32 zero bytes, which is the system program's. -/
def zero : Address := ⟨List.replicate 32 0, by simp⟩

instance : Inhabited Address := ⟨zero⟩

/-- The text of an address. -/
def toText (a : Address) : String := Base58.encode a.bytes

instance : ToString Address := ⟨toText⟩

/-- The address that a text spells, blanks at its ends aside. -/
def parse? (s : String) : Option Address :=
  (Base58.decode? (Text.trim s)).bind ofBytes?

/-- The address of a text that is known to spell one. -/
def ofLiteral (s : String) : Address := (parse? s).getD zero

/-! ### Well-known programs and accounts -/

/-- The program that creates accounts and moves balances. -/
def systemProgram : Address := zero

/-- The default program that holds configuration records and mints from them. -/
def recordProgram : Address := ofLiteral "mkwGBRGbNv8aWekyAx8Af5ebXaQr5UeJFZnxgUqcZ7B"

/-- The program that keeps token mints and token accounts. -/
def tokenProgram : Address := ofLiteral "TokenkegQfeZyiNwAJbNbGKPFXCWuBvf9Ss623VQ5DA"

/-- The program that keeps the metadata of tokens. -/
def metadataProgram : Address := ofLiteral "metaqbxxUerdq28cj1RbAWkYQm3ybzjb6a8bt518x1s"

/-- The program that creates the token account of an owner for a mint. -/
def associatedTokenProgram : Address := ofLiteral "ATokenGPvbdGVxr1b2hvZbsiqW5xWH25efTNsLJA8knL"

/-- The account that holds the rent rates. -/
def rentAccount : Address := ofLiteral "SysvarRent111111111111111111111111111111111"

/-- The account that holds the time. -/
def clockAccount : Address := ofLiteral "SysvarC1ock11111111111111111111111111111111"

/-- The account that holds recent block hashes. -/
def recentBlockhashesAccount : Address := ofLiteral "SysvarRecentB1ockHashes11111111111111111111"

/-- The account that holds the instructions of the running transaction. -/
def instructionsAccount : Address := ofLiteral "Sysvar1nstructions1111111111111111111111111"

end Address

end MintDrop

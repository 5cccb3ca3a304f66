import Rollout.Hash.Mac
import Rollout.Text.Utf8
import Rollout.Wallet.WordList

/-!
# Mnemonics

A mnemonic spells a key as words. Each word stands for eleven bits; the last bits are a checksum of
the bits before them. A phrase is a mnemonic if it has one of five lengths, its words are all in the
list with one space between them, and the checksum is right. The seed of a wallet is the phrase,
stretched.
-/

namespace Rollout.Wallet

/-- The numbers of words that a mnemonic may have. -/
def wordCounts : List Nat := [12, 15, 18, 21, 24]

/-- The number that words spell, eleven bits a word; nothing if a word is not in the list. -/
def wordsNat? (words : List (List Char)) : Option Nat :=
  words.foldlM (fun n word => (wordList.idxOf? word).map fun place => n * 2048 + place) 0

/-- Tells whether a phrase is a mnemonic. -/
def isMnemonic (phrase : String) : Bool :=
  let words := Text.splitAll ' ' phrase.toList
  match wordsNat? words with
  | none => false
  | some bits =>
    let checkBits := words.length / 3
    let entropy := Octets.ofNat (4 * checkBits) (bits / Nat.pow 2 checkBits)
    let check := (Octets.toNat (Sha2.sha256 entropy)) / Nat.pow 2 (256 - checkBits)
    wordCounts.contains words.length && bits % Nat.pow 2 checkBits = check

/-- The number of rounds by which a phrase is stretched. -/
def stretchRounds : Nat := 2048

/-- The seed of a phrase without password. -/
def seed (phrase : String) : Octets :=
  Mac.stretch (Utf8.encode phrase) (Utf8.encode "mnemonic") stretchRounds

end Rollout.Wallet

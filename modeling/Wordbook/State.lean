import Wordbook.Lexicon
import Wordbook.Relation

/-!
# The state of the engine

A lexicon, the tokens generated from it and the relations in the order in which they were added.
-/

namespace Wordbook

/-- Everything that the engine keeps and that is saved. -/
structure State where
  lexicon : Lexicon
  tokens : List String
  relations : List Relation
deriving DecidableEq

namespace State

/-- The identifiers in use. -/
def relationIds (state : State) : List Int := state.relations.map fun relation => relation.id

/-- The first relation with an identifier. -/
def find? (state : State) (id : Int) : Option Relation :=
  state.relations.find? fun relation => relation.id == id

/-- The first relation with a name. -/
def findByName? (state : State) (name : String) : Option Relation :=
  state.relations.find? fun relation => relation.name == name

/-- The state of a fresh engine: words of the two binary digits and four relations. -/
def default : State where
  lexicon := ⟨"01", 3, by decide, by decide⟩
  tokens :=
    ["0", "1", "00", "01", "10", "11", "000", "001", "010", "011", "100", "101", "110", "111"]
  relations :=
    [⟨1678886400000, "EQUALS", "return tokenA == tokenB"⟩,
      ⟨1678886400001, "IS_PREFIX_OF", "return tokenB.startswith(tokenA)"⟩,
      ⟨1678886400002, "IS_SUFFIX_OF", "return tokenB.endswith(tokenA)"⟩,
      ⟨1678886400003, "CONTAINS", "return tokenA in tokenB"⟩]

end State
end Wordbook

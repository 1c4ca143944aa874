import ScopedSearch.Index.Record
import ScopedSearch.Proofs.Json.RoundTrip
import ScopedSearch.Records

/-!
# Fields written and read

The fields of records hold texts, lists of texts, flags and numbers of 64 bits.  Each of them is
read as what was written, whatever it is, and is written without loss.

## Main results

* `textList?_texts`, `tagSet?_texts`: lists and sets of texts are read as they are.
* `readSize?_nat`, `readTime?_int`: so are the numbers of a record.
-/

namespace ScopedSearch

namespace Json

/-! ## Texts -/

theorem soundList_texts (items : List String) : soundList (items.map .text) = true := by
  induction items with
  | nil => rfl
  | cons s items ih => exact ih

theorem depthList_texts (items : List String) : depthList (items.map .text) = 0 := by
  induction items with
  | nil => rfl
  | cons s items ih => rw [List.map_cons, depthList, ih]; rfl

theorem exactList_texts (items : List String) : exactList (items.map .text) = true := by
  induction items with
  | nil => rfl
  | cons s items ih => exact ih

/-- A list of texts is read as the texts. -/
theorem textList?_texts (items : List String) : textList? (texts items) = some items := by
  unfold textList? texts
  induction items with
  | nil => rfl
  | cons s items ih =>
    dsimp only at ih ⊢
    rw [List.map_cons, List.mapM_cons, ih]
    rfl

/-- The list of the texts of a set is read as the set. -/
theorem tagSet?_texts (tags : TagSet) : tagSet? (texts tags.toList) = some tags := by
  rw [tagSet?, textList?_texts, Option.map_some, TagSet.ofList_toList]

/-! ## Numbers -/

theorem minSigned_le_toInt (n : Int64) : Text.minSigned ≤ n.toInt := n.le_toInt

theorem toInt_le_maxSigned (n : Int64) : n.toInt ≤ Text.maxSigned :=
  Int.le_sub_one_of_lt n.toInt_lt

theorem toInt_le_maxWord (n : Int64) : n.toInt ≤ Text.maxWord :=
  Int.le_trans (toInt_le_maxSigned n) (by decide)

end Json

/-- An unsigned number is read as it is. -/
theorem readSize?_nat (n : UInt64) : readSize? (.nat n.toNat) = some n := by
  rw [readSize?, Json.word?_nat n.toNat_lt, Option.map_some, UInt64.ofNat_toNat]

/-- A signed number is read as it is. -/
theorem readTime?_int (n : Int64) : readTime? (.int n.toInt) = some n := by
  have hread : Json.signed? (.int n.toInt) = some n.toInt := by
    rw [Json.signed?, Json.intIn?, if_pos ⟨Json.minSigned_le_toInt n, Json.toInt_le_maxSigned n⟩]
  rw [readTime?, hread, Option.map_some, Int64.ofInt_toInt]

end ScopedSearch

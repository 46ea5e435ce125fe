import Mathlib.Data.List.Induction
import Mathlib.Data.List.Nodup

/-!
# Logs that retain their latest keys

A log takes the first value of a key, and as long as the key is among the latest it takes
no other.  Behind them the key is forgotten, and can come again.
-/

namespace RetainedLog

variable {α β : Type*}

/-- The last items. -/
def latest (limit : ℕ) (items : List α) : List α := items.drop (items.length - limit)

theorem length_latest_le (limit : ℕ) (items : List α) : (latest limit items).length ≤ limit := by
  unfold latest
  rw [List.length_drop]
  omega

/-- One more item pushes the first of the latest out when they are as many as they can be. -/
theorem latest_concat {limit : ℕ} (hlimit : 0 < limit) (items : List α) (item : α) :
    latest limit (items ++ [item]) =
      if limit ≤ (latest limit items).length then (latest limit items).tail ++ [item]
      else latest limit items ++ [item] := by
  unfold latest
  rw [List.length_append, List.length_singleton, List.length_drop]
  split
  · have hnext : items.length + 1 - limit = items.length - limit + 1 := by omega
    rw [hnext, List.tail_drop, List.drop_append_of_le_length (by omega)]
  · have hfirst : items.length + 1 - limit = 0 := by omega
    have hsecond : items.length - limit = 0 := by omega
    rw [hfirst, hsecond]
    rfl

/-- What is behind the latest items does not matter to the latest of a longer log. -/
theorem latest_latest_concat (limit : ℕ) (items : List α) (item : α) :
    latest limit (latest limit items ++ [item]) = latest limit (items ++ [item]) := by
  unfold latest
  rw [← List.drop_append_of_le_length (Nat.sub_le _ _), List.drop_drop, List.length_drop,
    List.length_append, List.length_singleton]
  congr 1
  omega

variable [DecidableEq α]

/-- The log with an item, unless its key is among the latest. -/
def record (limit : ℕ) (log : List (α × β)) (item : α × β) : List (α × β) :=
  if item.1 ∈ (latest limit log).map Prod.fst then log else log ++ [item]

/-- The log of a list of items. -/
def recorded (limit : ℕ) (items : List (α × β)) : List (α × β) := items.foldl (record limit) []

theorem recorded_concat (limit : ℕ) (items : List (α × β)) (item : α × β) :
    recorded limit (items ++ [item]) = record limit (recorded limit items) item := by
  unfold recorded
  rw [List.foldl_append]
  rfl

/-- The latest keys are distinct. -/
theorem nodup_latest_recorded {limit : ℕ} (hlimit : 0 < limit) (items : List (α × β)) :
    ((latest limit (recorded limit items)).map Prod.fst).Nodup := by
  induction items using List.reverseRecOn with
  | nil =>
    rw [recorded, List.foldl_nil, latest, List.drop_nil]
    exact List.nodup_nil
  | append_singleton items item ih =>
    rw [recorded_concat]
    unfold record
    split
    · exact ih
    · next hnew =>
      have htail : List.Sublist (latest limit (recorded limit items)).tail
          (latest limit (recorded limit items)) := List.tail_sublist _
      rw [latest_concat hlimit]
      split
      · rw [List.map_append]
        refine List.Nodup.append ((htail.map _).nodup ih) (List.nodup_singleton _) ?_
        intro key hkey hlast
        rw [List.mem_singleton.mp hlast] at hkey
        exact hnew ((htail.map Prod.fst).subset hkey)
      · rw [List.map_append]
        refine List.Nodup.append ih (List.nodup_singleton _) ?_
        intro key hkey hlast
        rw [List.mem_singleton.mp hlast] at hkey
        exact hnew hkey

/-- The log has items that were to be recorded, in their order. -/
theorem recorded_sublist (limit : ℕ) (items : List (α × β)) :
    List.Sublist (recorded limit items) items := by
  induction items using List.reverseRecOn with
  | nil => exact List.Sublist.slnil
  | append_singleton items item ih =>
    rw [recorded_concat]
    unfold record
    split
    · exact ih.trans (List.sublist_append_left _ _)
    · exact ih.append (List.Sublist.refl _)

/-- The last key is among the latest. -/
theorem mem_latest_recorded_concat {limit : ℕ} (hlimit : 0 < limit) (items : List (α × β))
    (item : α × β) :
    item.1 ∈ (latest limit (recorded limit (items ++ [item]))).map Prod.fst := by
  rw [recorded_concat]
  unfold record
  split
  · assumption
  · rw [latest_concat hlimit]
    split <;> simp

end RetainedLog

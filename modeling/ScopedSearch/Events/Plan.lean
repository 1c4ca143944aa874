import ScopedSearch.Events.Event

/-!
# Plans

What an event asks of the engine: at most one change of a single document, and at most one rebuild
of the space behind it.

## Main results

* `length_plan_le`: a plan has at most two calls.
-/

namespace ScopedSearch

/-- A call that an event asks for. -/
inductive EngineCall
  | indexSpace (space : String)
  | trashItem (space item : String)
  | restoreItem (space item : String)
  | moveItem (space item path : String)
  /-- Changes the tags of a document. -/
  | upsertItem (space item : String) (delta : TagDelta)
  deriving DecidableEq, Repr

/-- The call as a record. -/
def EngineCall.toJson : EngineCall → Json
  | indexSpace space => .record [("call", .text "index_space"), ("space_id", .text space)]
  | trashItem space item => onItem "trash_item" space item []
  | restoreItem space item => onItem "restore_item" space item []
  | moveItem space item path => onItem "move_item" space item [("new_path", .text path)]
  | upsertItem space item (.add tags) =>
    onItem "upsert_item" space item [("add", .texts tags.toList)]
  | upsertItem space item (.remove tags) =>
    onItem "upsert_item" space item [("remove", .texts tags.toList)]
where
  /-- A call about one item. -/
  onItem (name space item : String) (more : List (String × Json)) : Json :=
    .record ([("call", .text name), ("space_id", .text space), ("item_id", .text item)] ++ more)

/-- What of a document an event asks to change. -/
inductive PointChange
  | trash
  | restore
  | move (path : String)
  | retag (delta : TagDelta)
  deriving DecidableEq, Repr

/-- The call that changes a document. -/
def PointChange.call (space item : String) : PointChange → EngineCall
  | trash => .trashItem space item
  | restore => .restoreItem space item
  | move path => .moveItem space item path
  | retag delta => .upsertItem space item delta

structure ReindexOptions where
  /-- An upload counts when its processing has ended, and not when it arrives. -/
  asyncUploads : Bool := false
  /-- A change of a document is followed by a rebuild of its space. -/
  rebuildAfterMutation : Bool := true
  deriving DecidableEq, Repr, Inhabited

/-- What of a document a change asks to change. -/
def Change.pointChange? : Change → Option PointChange
  | .itemTrashed => some .trash
  | .itemRestored => some .restore
  | .itemMoved _ newPath => some (.move newPath)
  | .tagsAdded tags => some (.retag (.add tags))
  | .tagsRemoved tags => some (.retag (.remove tags))
  | _ => none

/-- A change that touches more than what is known of one document asks for a rebuild. -/
def Change.asksForRebuild (options : ReindexOptions) : Change → Bool
  | .containerCreated | .fileTouched | .fileVersionRestored => true
  | .itemUploaded => !options.asyncUploads
  | .uploadReady _ failed => options.asyncUploads && !failed
  | _ => false

/-- The calls for an event, in the order they are made in. -/
def plan (options : ReindexOptions) (e : Event) : List EngineCall :=
  match e.change.pointChange? with
  | some p =>
    p.call e.space e.item :: (if options.rebuildAfterMutation then [.indexSpace e.space] else [])
  | none => if e.change.asksForRebuild options then [.indexSpace e.space] else []

theorem length_plan_le (options : ReindexOptions) (e : Event) : (plan options e).length ≤ 2 := by
  unfold plan
  split <;> split <;> simp

end ScopedSearch

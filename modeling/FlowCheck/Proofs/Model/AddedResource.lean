import FlowCheck.Model.Workflow
import FlowCheck.Proofs.Json.Members
import FlowCheck.Proofs.Schema.Allowed
import FlowCheck.Proofs.Wire.Reading

/-!
# One more resource

A workflow document with one more resource at the end is accepted when the document and the
resource are (`DocumentKind.check_iff_of_addsResource`), and read as the workflow with one more
resource (`Workflow.read_iff_of_addsResource`).  Nothing else in the document matters, and the
resource may be any value at all.
-/

namespace FlowCheck

open Wire (Codec Gives Member Record Site bind_eq_ok_iff)

/-- The second document is the first with one more resource, in an object or in a row. -/
inductive Json.AddsResource (resource : Json) : Json → Json → Prop
  | object {members : Members} {resources : List Json}
      (h : members.get? "resources" = some (.arr resources)) :
      AddsResource resource (.obj members)
        (.obj (members.insert "resources" (.arr (resources ++ [resource]))))
  | row {version kind metadata settings : Json} {resources rest : List Json} :
      AddsResource resource
        (.arr (version :: kind :: metadata :: settings :: .arr resources :: rest))
        (.arr (version :: kind :: metadata :: settings :: .arr (resources ++ [resource]) :: rest))

/-! ## Reading -/

theorem Wire.Codec.read_list_append_singleton_iff {α : Type} {c : Codec α} {site : Site}
    {items : List Json} {item : Json} {as : List α} :
    c.list.read site (.arr (items ++ [item])) = .ok as ↔
      ∃ before a, c.list.read site (.arr items) = .ok before ∧ c.read site item = .ok a ∧
        as = before ++ [a] := by
  change (items ++ [item]).mapM (c.read site) = .ok as ↔
    ∃ before a, items.mapM (c.read site) = .ok before ∧ _
  rw [List.mapM_append, List.mapM_cons, List.mapM_nil]
  simp only [bind_eq_ok_iff, pure, Except.pure, Except.ok.injEq]
  constructor
  · rintro ⟨before, hbefore, row, ⟨a, ha, last, rfl, rfl⟩, rfl⟩
    exact ⟨before, a, hbefore, ha, rfl⟩
  · rintro ⟨before, a, hbefore, ha, rfl⟩
    exact ⟨before, hbefore, [a], ⟨a, ha, [], rfl, rfl⟩, rfl⟩

section
variable {α β ρ : Type} {site : Site}

theorem Wire.Record.readItems_member_iff {r : Record ρ (α → β)} {m : Member ρ α}
    {items rest : List Json} {v : β} :
    (r.member m).readItems site items = .ok (v, rest) ↔ ∃ f more a,
      r.readItems site items = .ok (f, more) ∧ m.readItem site r.size more = .ok (a, rest) ∧
        f a = v := by
  simp only [Record.member, bind_eq_ok_iff, pure, Except.pure, Except.ok.injEq, Prod.mk.injEq,
    Prod.exists]
  constructor
  · rintro ⟨f, more, hf, a, rest', ha, rfl, rfl⟩
    exact ⟨f, more, a, hf, ha, rfl⟩
  · rintro ⟨f, more, a, hf, ha, rfl⟩
    exact ⟨f, more, hf, a, rest, ha, rfl, rfl⟩

theorem Wire.Member.readItem_cons_iff {m : Member ρ α} {i : Nat} {j : Json}
    {items rest : List Json} {a : α} : m.readItem site i (j :: items) = .ok (a, rest) ↔
      m.codec.read site j = .ok a ∧ items = rest := by
  unfold readItem
  cases hread : m.codec.read site j <;> simp [hread]

end

namespace Workflow

variable {site : Site} {w : Workflow}

/-- A workflow is read from an object member by member. -/
theorem readMembers_eq_value_iff {members : Members} :
    record.readMembers site members = .value w ↔
      Gives .text (some "") site members "apiVersion" w.apiVersion ∧
      Gives .text (some "") site members "kind" w.kind ∧
      Gives WorkflowMetadata.codec (some {}) site members "metadata" w.metadata ∧
      Gives Settings.codec (some {}) site members "settings" w.settings ∧
      Gives Resource.codec.list (some []) site members "resources" w.resources := by
  simp only [record, Record.text, Record.list, Record.defaulted, Record.readMembers_member,
    Member.readFrom_eq_value_iff, Record.readMembers_start]
  constructor
  · rintro ⟨_, resources, ⟨_, settings, ⟨_, metadata, ⟨_, kind, ⟨_, version, rfl, hversion, rfl⟩,
      hkind, rfl⟩, hmetadata, rfl⟩, hsettings, rfl⟩, hresources, rfl⟩
    exact ⟨hversion, hkind, hmetadata, hsettings, hresources⟩
  · rintro ⟨hversion, hkind, hmetadata, hsettings, hresources⟩
    exact ⟨_, _, ⟨_, _, ⟨_, _, ⟨_, _, ⟨_, _, rfl, hversion, rfl⟩, hkind, rfl⟩, hmetadata, rfl⟩,
      hsettings, rfl⟩, hresources, rfl⟩

/-- A workflow is read from a row item by item. -/
theorem readItems_eq_ok_iff {version kind metadata settings resources : Json}
    {items rest : List Json} :
    record.readItems site (version :: kind :: metadata :: settings :: resources :: items) =
        .ok (w, rest) ↔
      Codec.text.read site version = .ok w.apiVersion ∧ Codec.text.read site kind = .ok w.kind ∧
      WorkflowMetadata.codec.read site metadata = .ok w.metadata ∧
      Settings.codec.read site settings = .ok w.settings ∧
      Resource.codec.list.read site resources = .ok w.resources ∧ items = rest := by
  have hstart {row more : List Json} {f : String → String → WorkflowMetadata → Settings →
      List Resource → Workflow} :
      (Record.start Workflow.mk : Record Workflow _).readItems site row = .ok (f, more) ↔
        Workflow.mk = f ∧ row = more := by
    simp [Record.start]
  simp only [record, Record.text, Record.list, Record.defaulted, Record.readItems_member_iff,
    hstart]
  constructor
  · rintro ⟨_, _, resources, ⟨_, _, settings, ⟨_, _, metadata, ⟨_, _, kind, ⟨_, _, version,
      ⟨rfl, rfl⟩, hfirst, rfl⟩, hsecond, rfl⟩, hthird, rfl⟩, hfourth, rfl⟩, hfifth, rfl⟩
    obtain ⟨hversion, rfl⟩ := Member.readItem_cons_iff.1 hfirst
    obtain ⟨hkind, rfl⟩ := Member.readItem_cons_iff.1 hsecond
    obtain ⟨hmetadata, rfl⟩ := Member.readItem_cons_iff.1 hthird
    obtain ⟨hsettings, rfl⟩ := Member.readItem_cons_iff.1 hfourth
    obtain ⟨hresources, rfl⟩ := Member.readItem_cons_iff.1 hfifth
    exact ⟨hversion, hkind, hmetadata, hsettings, hresources, rfl⟩
  · rintro ⟨hversion, hkind, hmetadata, hsettings, hresources, rfl⟩
    exact ⟨_, _, _, ⟨_, _, _, ⟨_, _, _, ⟨_, _, _, ⟨_, _, _, ⟨rfl, rfl⟩,
      Member.readItem_cons_iff.2 ⟨hversion, rfl⟩, rfl⟩,
      Member.readItem_cons_iff.2 ⟨hkind, rfl⟩, rfl⟩,
      Member.readItem_cons_iff.2 ⟨hmetadata, rfl⟩, rfl⟩,
      Member.readItem_cons_iff.2 ⟨hsettings, rfl⟩, rfl⟩,
      Member.readItem_cons_iff.2 ⟨hresources, rfl⟩, rfl⟩

/-- A row is read to its end. -/
theorem read_arr_eq_ok_iff {items : List Json} :
    codec.read site (.arr items) = .ok w ↔ record.readItems site items = .ok (w, []) := by
  change record.read "Workflow" site (.arr items) = .ok w ↔ _
  unfold Record.read
  cases hitems : record.readItems site items with
  | error p => cases p <;> simp [hitems]
  | ok v =>
    obtain ⟨x, _ | ⟨j, rest⟩⟩ := v <;> simp [hitems]

/-- A member of another name is read alike when the resources are replaced. -/
theorem gives_insert_iff {α : Type} {c : Codec α} {absent : Option α} {members : Members}
    {name : String} {value : Json} {a : α} (hname : name ≠ "resources") :
    Gives c absent site (members.insert "resources" value) name a ↔
      Gives c absent site members name a := by
  unfold Gives
  rw [Members.get?_insert, if_neg hname]

/-- With one more resource in the document the workflow has one more resource, and is the same
otherwise. -/
theorem read_iff_of_addsResource {resource doc doc' : Json}
    (h : Json.AddsResource resource doc doc') : codec.read site doc' = .ok w ↔
      ∃ before r, codec.read site doc = .ok before ∧ Resource.codec.read site resource = .ok r ∧
        w = { before with resources := before.resources ++ [r] } := by
  cases h with
  | @object members resources hget =>
    have hlist {as : List Resource} : Gives Resource.codec.list (some []) site members "resources"
        as ↔ Resource.codec.list.read site (.arr resources) = .ok as := by
      unfold Gives
      rw [hget]
    have hlist' {as : List Resource} : Gives Resource.codec.list (some []) site
        (members.insert "resources" (.arr (resources ++ [resource]))) "resources" as ↔
          Resource.codec.list.read site (.arr (resources ++ [resource])) = .ok as := by
      unfold Gives
      rw [Members.get?_insert, if_pos rfl]
    change (record.codec "Workflow").read site _ = .ok w ↔ ∃ before r,
      (record.codec "Workflow").read site (.obj members) = .ok before ∧ _
    simp only [Record.read_obj_eq_ok_iff, readMembers_eq_value_iff, hlist, hlist',
      gives_insert_iff (show "apiVersion" ≠ "resources" by decide),
      gives_insert_iff (show "kind" ≠ "resources" by decide),
      gives_insert_iff (show "metadata" ≠ "resources" by decide),
      gives_insert_iff (show "settings" ≠ "resources" by decide),
      Codec.read_list_append_singleton_iff]
    constructor
    · rintro ⟨hversion, hkind, hmetadata, hsettings, before, r, hbefore, hr, hresources⟩
      refine ⟨{ w with resources := before }, r,
        ⟨hversion, hkind, hmetadata, hsettings, hbefore⟩, hr, ?_⟩
      rw [← hresources]
    · rintro ⟨before, r, ⟨hversion, hkind, hmetadata, hsettings, hbefore⟩, hr, rfl⟩
      exact ⟨hversion, hkind, hmetadata, hsettings, before.resources, r, hbefore, hr, rfl⟩
  | row =>
    simp only [read_arr_eq_ok_iff, readItems_eq_ok_iff, Codec.read_list_append_singleton_iff]
    constructor
    · rintro ⟨hversion, hkind, hmetadata, hsettings, ⟨before, r, hbefore, hr, hresources⟩, hrest⟩
      refine ⟨{ w with resources := before }, r,
        ⟨hversion, hkind, hmetadata, hsettings, hbefore, hrest⟩, hr, ?_⟩
      rw [← hresources]
    · rintro ⟨before, r, ⟨hversion, hkind, hmetadata, hsettings, hbefore, hrest⟩, hr, rfl⟩
      exact ⟨hversion, hkind, hmetadata, hsettings, ⟨before.resources, r, hbefore, hr, rfl⟩, hrest⟩

end Workflow

/-! ## Checking -/

namespace Schema

theorem allowsProperties_iff {members : Members} {properties : List (String × Schema)} :
    AllowsProperties members properties ↔
      ∀ p ∈ properties, ∀ j, members.get? p.1 = some j → p.2.Allows j := by
  induction properties with
  | nil => simp [AllowsProperties]
  | cons p rest ih => rw [AllowsProperties, ih, List.forall_mem_cons]

variable {closed : Bool} {required : List String} {properties : List (String × Schema)}

/-- An allowed record stays allowed when the value of a member is replaced by one that is allowed
in its place. -/
theorem allows_of_replaced {name : String} {t : Schema}
    (hname : ∀ p ∈ properties, p.1 = name → p.2 = t) {members members' : Members} {value : Json}
    (h : (record closed required properties).Allows (.obj members))
    (hthere : (members.get? name).isSome = true) (hvalue : t.Allows value)
    (hget : ∀ key, members'.get? key = if key = name then some value else members.get? key) :
    (record closed required properties).Allows (.obj members') := by
  obtain ⟨ms, hms, hproperties, hrequired, hclosed⟩ := h
  obtain rfl := Json.obj.inj hms
  have hkeys (key : String) : (members'.get? key).isSome = (members.get? key).isSome := by
    rw [hget]
    split
    · next hkey => rw [hkey, hthere, Option.isSome_some]
    · rfl
  refine ⟨members', rfl, allowsProperties_iff.2 fun p hp j hj => ?_, fun key hkey => ?_,
    fun hc m hm => ?_⟩
  · rw [hget] at hj
    split at hj
    · next hpname =>
      rw [hname p hp hpname, ← Option.some.inj hj]
      exact hvalue
    · exact allowsProperties_iff.1 hproperties p hp j hj
  · exact (hkeys key).trans (hrequired key hkey)
  · have hsome : (members'.get? m.1).isSome = true := by
      rw [Option.isSome_iff_ne_none]
      exact fun hnone => Members.lookup_eq_none_iff_not_mem.1 hnone (List.mem_map_of_mem hm)
    rw [hkeys] at hsome
    obtain ⟨old, hold⟩ := Option.isSome_iff_exists.1 hsome
    exact hclosed hc (m.1, old) (Members.mem_of_lookup_eq_some hold)

end Schema

namespace DocumentKind

/-- A document with one more resource is accepted when it was before and the resource is. -/
theorem check_iff_of_addsResource {r doc doc' : Json} (h : Json.AddsResource r doc doc') :
    workflow.check doc' = .ok () ↔ workflow.check doc = .ok () ∧ resource.check r = .ok () := by
  simp only [check_eq_ok_iff_allows]
  cases h with
  | @object members resources hget =>
    have hadded (key : String) :
        Members.get? (members.insert "resources" (.arr (resources ++ [r]))) key =
          if key = "resources" then some (.arr (resources ++ [r])) else members.get? key :=
      Members.get?_insert members "resources" key _
    have hbefore (key : String) : members.get? key = if key = "resources" then
        some (.arr resources) else
          Members.get? (members.insert "resources" (.arr (resources ++ [r]))) key := by
      split
      · next hkey => rw [hkey, hget]
      · next hkey => rw [hadded, if_neg hkey]
    have hthere : Members.get? (members.insert "resources" (.arr (resources ++ [r]))) "resources" =
        some (.arr (resources ++ [r])) := by
      rw [hadded, if_pos rfl]
    constructor
    · intro hall
      obtain ⟨ms, hms, hproperties, -⟩ := id hall
      obtain rfl := Json.obj.inj hms
      obtain ⟨values, hvalues, hitems⟩ := Schema.allows_of_lookup hproperties rfl hthere
      obtain rfl := Json.arr.inj hvalues
      obtain ⟨hown, hlast⟩ := List.forall_mem_append.1 hitems
      refine ⟨?_, List.forall_mem_singleton.1 hlast⟩
      exact Schema.allows_of_replaced (t := .list Schema.resource) (by simp) hall
        (by rw [hthere]; rfl) ⟨resources, rfl, hown⟩ hbefore
    · rintro ⟨hall, hlast⟩
      obtain ⟨ms, hms, hproperties, -⟩ := id hall
      obtain rfl := Json.obj.inj hms
      obtain ⟨values, hvalues, hown⟩ := Schema.allows_of_lookup hproperties rfl hget
      obtain rfl := Json.arr.inj hvalues
      refine Schema.allows_of_replaced (t := .list Schema.resource) (by simp) hall
        (by rw [hget]; rfl) ⟨_, rfl, ?_⟩ hadded
      exact List.forall_mem_append.2 ⟨hown, List.forall_mem_singleton.2 hlast⟩
  | row =>
    constructor
    · rintro ⟨members, hmembers, -⟩
      exact Json.noConfusion hmembers
    · rintro ⟨⟨members, hmembers, -⟩, -⟩
      exact Json.noConfusion hmembers

end DocumentKind
end FlowCheck

import MessageCatalog.Proofs.Client.Routing
import MessageCatalog.Proofs.Registry.Conflict

/-!
# Fresh instances

A descriptor has its zero value beside its token, and nothing in a descriptor keeps the two together: a zero value of another type would be refused by the cast only after the check of the token had let it pass, `Descriptor.newInstanceOf_of_ne`. That no such descriptor is ever handed out is a matter of where descriptors come from. Each is made for one type, `Descriptor.IsPaired`, and what registrations return, lookups find, enumerations yield and routes carry are descriptors that were made so, `Registry.HandsOut.isPaired`. The names of types have no part in it.
-/

namespace MessageCatalog

variable {table : TypeTable} {registry : Registry} {entry : Descriptor}

/-! ### One descriptor -/

namespace Descriptor

/-- The zero value is that of the type that the token stands for. -/
def IsPaired (table : TypeTable) (entry : Descriptor) : Prop := entry.zero = Instance.zero table entry.type

/-- Where the two belong to different types, the check of the token lets pass what the cast refuses. -/
theorem newInstanceOf_of_ne (h : entry.zero.type ≠ entry.type) :
    entry.isOf table entry.type = true ∧ entry.newInstanceOf table entry.type = none := by
  have hown : entry.isOf table entry.type = true := isOf_iff.2 rfl
  refine ⟨hown, ?_⟩
  rw [newInstanceOf, if_pos hown]
  exact if_neg h

/-- What a descriptor gives as fresh instances, and to whom. -/
structure Instantiates (table : TypeTable) (entry : Descriptor) : Prop where
  newInstance_eq : entry.newInstance = Instance.zero table entry.token.id
  isOf_iff : ∀ type, entry.isOf table type = true ↔ type = entry.token.id
  isSome_iff : ∀ type, (entry.newInstanceOf table type).isSome = true ↔ entry.isOf table type = true
  value_eq : ∀ type value, entry.newInstanceOf table type = some value → value = Instance.zero table type
  /-- The check of the token and the cast agree on every type, so no cast fails behind the check. -/
  cast_iff : ∀ type, (entry.newInstance.cast? type).isSome = true ↔ entry.isOf table type = true
  /-- A type that is merely called alike is another type. -/
  namesake : ∀ type, table.name type = entry.name → type ≠ entry.token.id →
    entry.isOf table type = false ∧ entry.newInstanceOf table type = none

namespace IsPaired

theorem cast?_newInstance (h : entry.IsPaired table) (type : NativeType) :
    entry.newInstance.cast? type = if entry.type = type then some (Instance.zero table type) else none := by
  rw [newInstance, h]
  by_cases htype : entry.type = type
  · rw [htype, if_pos rfl]
    exact if_pos rfl
  · rw [if_neg htype]
    exact if_neg htype

theorem newInstanceOf_eq (h : entry.IsPaired table) (type : NativeType) :
    entry.newInstanceOf table type = if entry.type = type then some (Instance.zero table type) else none := by
  rw [newInstanceOf, h.cast?_newInstance]
  by_cases htype : entry.type = type
  · rw [if_pos (isOf_iff.2 htype)]
  · rw [if_neg (mt isOf_iff.1 htype), if_neg htype]

theorem instantiates (h : entry.IsPaired table) : entry.Instantiates table := by
  refine ⟨h, fun type => isOf_iff.trans eq_comm, fun type => ?_, fun type value hvalue => ?_, fun type => ?_,
    fun type _ hother => ?_⟩
  · rw [h.newInstanceOf_eq, isOf_iff, Option.isSome_ite]
  · rw [h.newInstanceOf_eq, Option.ite_none_right_eq_some] at hvalue
    exact (Option.some.inj hvalue.2).symm
  · rw [h.cast?_newInstance, isOf_iff, Option.isSome_ite]
  · have htype : entry.type ≠ type := Ne.symm hother
    exact ⟨Bool.eq_false_iff.2 (mt isOf_iff.1 htype), (h.newInstanceOf_eq type).trans (if_neg htype)⟩

end IsPaired

end Descriptor

theorem Snapshot.Genuine.isPaired {snapshot : Snapshot} (h : snapshot.Genuine table) (hentry : entry ∈ snapshot.table) :
    entry.IsPaired table :=
  congrArg Descriptor.zero (h.eq_descriptor entry hentry)

/-! ### What a registry hands out -/

/-- The registry hands the descriptor out, to whoever asks now. -/
inductive Registry.HandsOut (table : TypeTable) (registry : Registry) (entry : Descriptor) : Prop where
  | registered {kind : MessageKind} {type : NativeType} {text : String} :
      (registry.register table kind type text).1 = .ok entry → HandsOut table registry entry
  | asked {question : Query} : entry ∈ (question.answer table registry).descriptors → HandsOut table registry entry
  | foundType {type : NativeType} : registry.snapshot.findType? type = some entry → HandsOut table registry entry
  | foundIdentifier {raw : String} : registry.snapshot.findIdentifier? raw = some entry → HandsOut table registry entry
  | enumerated {via : Traversal} {count : Nat} : entry ∈ ((registry.guard.walk via).draw count).1 → HandsOut table registry entry
  | routed {kind : RouteKind} {type : NativeType} {route : Route} :
      Route.build table registry kind type = .ok route → route.messageType = entry → HandsOut table registry entry

theorem mem_toList_toOption {ε α : Type} {result : Except ε α} {a : α} : a ∈ result.toOption.toList ↔ result = .ok a := by
  cases result <;> simp [Except.toOption, eq_comm]

theorem SnapshotGuard.mem_table_of_drawn {guard : SnapshotGuard} {via : Traversal} {count : Nat}
    (h : entry ∈ ((guard.walk via).draw count).1) : entry ∈ guard.snapshot.table := by
  rw [walk_eq_cursor, Cursor.draw_eq] at h
  exact List.mem_of_mem_take h

theorem Query.mem_table_of_answer (hcoherent : registry.snapshot.Coherent) {question : Query}
    (h : entry ∈ (question.answer table registry).descriptors) : entry ∈ registry.snapshot.table := by
  cases question with
  | byType type => exact ((Registry.byType_eq_some_iff hcoherent).1 (Option.mem_toList.1 h)).1
  | byIdentifier text =>
    have hfound : registry.byIdentifier text = .ok (some entry) := by
      cases hresult : registry.byIdentifier text with
      | error cause => simp [answer, Answer.descriptors, hresult, Except.toOption] at h
      | ok found? => simpa [answer, Answer.descriptors, hresult, Except.toOption] using h
    exact ((Registry.byIdentifier_eq_some_iff hcoherent).1 hfound).1
  | require type kind =>
    have hrequire : registry.require table type kind = .ok entry := mem_toList_toOption.1 h
    have hfound : registry.byType type = some entry := by
      cases hresult : registry.byType type with
      | none => simp [Registry.require, hresult] at hrequire
      | some found => simpa [Registry.require, hresult] using hrequire
    exact ((Registry.byType_eq_some_iff hcoherent).1 hfound).1
  | enumerate => rwa [answer, Answer.descriptors, Cursor.drain_eq] at h
  | size => exact absurd h List.not_mem_nil
  | isEmpty => exact absurd h List.not_mem_nil

theorem Registry.HandsOut.isPaired (hreachable : registry.Reachable table) (h : registry.HandsOut table entry) :
    entry.IsPaired table := by
  have hcoherent := hreachable.coherent
  cases h with
  | @registered kind type text hregister =>
    -- what a registration returns is in the table that it leaves behind
    have hafter : (registry.register table kind type text).2.Reachable table := hreachable.answer (.register kind type text)
    exact hafter.genuine.isPaired (mem_table_register_iff.2 (.inr hregister))
  | asked hanswer => exact hreachable.genuine.isPaired (Query.mem_table_of_answer hcoherent hanswer)
  | foundType hfound => exact hreachable.genuine.isPaired (hcoherent.findType?_iff.1 hfound).1
  | foundIdentifier hfound => exact hreachable.genuine.isPaired (hcoherent.findIdentifier?_iff.1 hfound).1
  | enumerated hdrawn => exact hreachable.genuine.isPaired (SnapshotGuard.mem_table_of_drawn hdrawn)
  | routed hbuild hentry =>
    obtain rfl := hentry
    exact hreachable.genuine.isPaired ((Route.build_eq_ok_iff hcoherent).1 hbuild).2.1

/-! ### What a client holds -/

namespace Client

variable {client : Client}

/-- The guards and descriptors that the client has got are from such registries. -/
structure IsPaired (table : TypeTable) (client : Client) : Prop where
  reachable : client.registry.Reachable table
  guards : ∀ guard ∈ client.guards, guard.snapshot.Genuine table
  held : ∀ entry ∈ client.held, entry.IsPaired table

theorem notMem_ask (number : Nat) {question : Descriptor → Reply} (h : ∀ entry, (question entry).descriptors = []) :
    entry ∉ (client.ask number question).descriptors := by
  rw [ask]
  cases client.held[number]? with
  | none => exact List.not_mem_nil
  | some asked => exact h asked ▸ List.not_mem_nil

/-- A reply brings what the registry hands out now, or what a guard has kept. -/
theorem handsOut_or_mem_guard {act : Act} (h : entry ∈ (client.step table act).1.descriptors) :
    client.registry.HandsOut table entry ∨ ∃ guard ∈ client.guards, entry ∈ guard.snapshot.table := by
  cases act with
  | call call =>
    cases call with
    | register kind type text => exact .inl (.registered (mem_toList_toOption.1 h))
    | registerDeclared declarations => exact absurd h List.not_mem_nil
    | query question => exact .inl (.asked h)
  | route kind type =>
    obtain ⟨route, hroute, rfl⟩ := Option.map_eq_some_iff.1 (Option.mem_toList.1 h)
    exact .inl (.routed (mem_toList_toOption.1 (Option.mem_toList.2 hroute)) rfl)
  | pin => exact absurd h List.not_mem_nil
  | enumerate guard via count =>
    cases hguard : client.guards[guard]? with
    | none => simp [step, perform, hguard, Reply.descriptors] at h
    | some pinned =>
      simp only [step, perform, hguard] at h
      exact .inr ⟨pinned, List.mem_of_getElem? hguard, SnapshotGuard.mem_table_of_drawn h⟩
  | isOf number type => exact absurd h (notMem_ask number fun _ => rfl)
  | newInstance number => exact absurd h (notMem_ask number fun _ => rfl)
  | newInstanceOf number type => exact absurd h (notMem_ask number fun _ => rfl)

theorem mem_guards_step {act : Act} {guard : SnapshotGuard} (h : guard ∈ (client.step table act).2.guards) :
    guard ∈ client.guards ∨ guard = client.registry.guard := by
  cases act with
  | call call => exact .inl h
  | route kind type => exact .inl h
  | pin => exact (List.mem_append.1 h).imp_right List.mem_singleton.1
  | enumerate number via count =>
    cases hguard : client.guards[number]? <;> simp only [step, perform, hguard] at h <;> exact .inl h
  | isOf number type => exact .inl h
  | newInstance number => exact .inl h
  | newInstanceOf number type => exact .inl h

theorem held_step (client : Client) (act : Act) :
    (client.step table act).2.held = client.held ++ (client.step table act).1.descriptors := by
  cases act with
  | enumerate number via count => cases hguard : client.guards[number]? <;> simp only [step, perform, hguard]
  | _ => rfl

theorem IsPaired.step (h : client.IsPaired table) (act : Act) : (client.step table act).2.IsPaired table := by
  refine ⟨reachable_after h.reachable [act], fun guard hguard => ?_, fun entry hentry => ?_⟩
  · rcases mem_guards_step hguard with hold | rfl
    · exact h.guards guard hold
    · exact h.reachable.genuine
  · rw [held_step, List.mem_append] at hentry
    rcases hentry with hold | hnew
    · exact h.held entry hold
    · rcases handsOut_or_mem_guard hnew with hnow | ⟨guard, hguard, hkept⟩
      · exact hnow.isPaired h.reachable
      · exact (h.guards guard hguard).isPaired hkept

theorem IsPaired.after (h : client.IsPaired table) (acts : List Act) : (client.after table acts).IsPaired table := by
  induction acts generalizing client with
  | nil => exact h
  | cons act acts ih => exact ih (h.step act)

end Client

/-! ### What threads and onlookers get -/

namespace Concurrent

variable {calls : List (List Call)}

theorem mem_returns {history : List Moment} {thread : Nat} {answer : Answer} (h : .returned thread answer ∈ history) :
    answer ∈ returns history thread :=
  List.mem_filterMap.2 ⟨_, h, if_pos rfl⟩

/-- An answer in the history brings a descriptor that was made for its request, or that a registry of the run had when it was asked. -/
theorem isPaired_of_returned (hreachable : registry.Reachable table) {schedule : List Nat} {thread : Nat} {answer : Answer}
    (hanswer : .returned thread answer ∈ ((State.start registry calls).run table schedule).history)
    (hentry : entry ∈ answer.descriptors) : entry.IsPaired table := by
  have hmem := mem_returns hanswer
  rw [(State.records_run registry calls schedule thread).2] at hmem
  obtain ⟨number, hnumber⟩ := List.mem_iff_getElem?.1 hmem
  obtain ⟨earlier, -, hearlier⟩ := (State.accords_run table registry calls schedule thread).answered
  obtain ⟨call, -, hadmits⟩ := hearlier.exists_call hnumber
  cases hadmits with
  | registered hprepare =>
    obtain ⟨canonical, -, -, rfl⟩ := Registry.prepare_eq_ok_iff.1 hprepare
    obtain rfl := List.mem_singleton.1 hentry
    rfl
  | refused => exact absurd hentry List.not_mem_nil
  | declared => exact absurd hentry List.not_mem_nil
  | answered hreads =>
    obtain ⟨past, -, -, -, rfl⟩ := hreads
    exact Registry.HandsOut.isPaired (hreachable.run calls past) (.asked hentry)

namespace Audience

/-- Somebody has got the descriptor, or can get it now: as the answer to a call, from an enumeration, from a guard, or from the registry. -/
inductive HandsOut (table : TypeTable) (audience : Audience) (entry : Descriptor) : Prop where
  | returned {thread : Nat} {answer : Answer} :
      .returned thread answer ∈ audience.state.history → entry ∈ answer.descriptors → HandsOut table audience entry
  | drawn {reading : Reading} : reading ∈ audience.readings → entry ∈ reading.drawn → HandsOut table audience entry
  | pinned {guard : SnapshotGuard} {via : Traversal} {count : Nat} :
      guard ∈ audience.guards → entry ∈ ((guard.walk via).draw count).1 → HandsOut table audience entry
  | current : audience.state.registry.HandsOut table entry → HandsOut table audience entry

theorem mem_guards_step {audience : Audience} {move : Move} {guard : SnapshotGuard}
    (h : guard ∈ (audience.step table move).guards) : guard ∈ audience.guards ∨ guard = audience.state.registry.guard := by
  cases move with
  | turn thread => exact .inl h
  | pin => exact (List.mem_append.1 h).imp_right List.mem_singleton.1
  | walk number via => cases hguard : audience.guards[number]? <;> simp only [step, hguard] at h <;> exact .inl h
  | draw number count => cases hreading : audience.readings[number]? <;> simp only [step, hreading] at h <;> exact .inl h

theorem genuine_of_mem_guards (hreachable : registry.Reachable table) (moves : List Move) :
    ∀ guard ∈ ((start registry calls).run table moves).guards, guard.snapshot.Genuine table := by
  induction moves using List.reverseRecOn with
  | nil => exact fun guard hguard => absurd hguard List.not_mem_nil
  | append_singleton moves move ih =>
    intro guard hguard
    rw [run_append] at hguard
    rcases mem_guards_step hguard with hold | rfl
    · exact ih guard hold
    · rw [state_run]
      exact (hreachable.run calls (turns moves)).genuine

theorem HandsOut.isPaired (hreachable : registry.Reachable table) {moves : List Move}
    (h : ((start registry calls).run table moves).HandsOut table entry) : entry.IsPaired table := by
  have hguards : ∀ guard ∈ ((start registry calls).run table moves).guards, guard.snapshot.Genuine table :=
    genuine_of_mem_guards hreachable moves
  cases h with
  | returned hanswer hentry =>
    rw [state_run] at hanswer
    exact isPaired_of_returned hreachable hanswer hentry
  | drawn hreading hentry =>
    obtain ⟨guard, hguard, hwhole⟩ := (isFaithful_start registry calls).run moves _ hreading
    exact (hguards guard (List.mem_of_getElem? hguard)).isPaired (hwhole ▸ List.mem_append_left _ hentry)
  | pinned hguard hdrawn => exact (hguards _ hguard).isPaired (SnapshotGuard.mem_table_of_drawn hdrawn)
  | current hnow =>
    rw [state_run] at hnow
    exact hnow.isPaired (hreachable.run calls (turns moves))

end Audience

end Concurrent

/-- Every descriptor that is ever handed out gives fresh instances of the type that its token stands for, and of no other type, be it called alike. -/
theorem fresh_instances (hreachable : registry.Reachable table) :
    (∀ entry, registry.HandsOut table entry → entry.Instantiates table) ∧
      (∀ acts, ∀ entry ∈ (Client.after table { registry } acts).held, entry.Instantiates table) ∧
      ∀ calls moves entry, ((Concurrent.Audience.start registry calls).run table moves).HandsOut table entry →
        entry.Instantiates table := by
  refine ⟨fun entry h => (h.isPaired hreachable).instantiates, fun acts entry hentry => ?_,
    fun calls moves entry h => (h.isPaired hreachable).instantiates⟩
  have hclient : Client.IsPaired table { registry } :=
    ⟨hreachable, fun _ hguard => absurd hguard List.not_mem_nil, fun _ hheld => absurd hheld List.not_mem_nil⟩
  exact ((hclient.after acts).held entry hentry).instantiates

/-- Types that are called alike, but have zero values of their own. -/
def twins : TypeTable := ⟨fun _ => "Twin", fun type => if type = .value 0 then "Twin" else "Twin(0)"⟩

def twinIdentifier : Identifier := ⟨"7d2c9b14-6e3f-4a58-9c07-1b8e5f4a3d26", by decide⟩

def twin : Descriptor := .of twins (.value 0) twinIdentifier

theorem fresh_instances_twins :
    (Registry.create 0 "main").Reachable twins ∧ (Registry.create 0 "main").HandsOut twins twin ∧
      twins.name (.value 1) = twin.name ∧ twin.newInstanceOf twins (.value 1) = none ∧
      twin.newInstanceOf twins (.value 0) = some ⟨.value 0, "Twin"⟩ := by
  have hprepare : Registry.prepare twins (.value 0) twinIdentifier.text = .ok twin :=
    Registry.prepare_of_value (Identifier.parse_text twinIdentifier) rfl
  have hfree : (Registry.create 0 "main").snapshot.conflict? twin = none :=
    Snapshot.conflict?_eq_none_iff.2 ⟨Snapshot.findType?_empty _, Snapshot.findIdentifier?_empty _⟩
  have hregister : ((Registry.create 0 "main").register twins .event (.value 0) twinIdentifier.text).1 = .ok twin := by
    rw [Registry.register_of_free hprepare hfree]
  have hgives := (fresh_instances (.create 0 "main")).1 twin (.registered hregister)
  refine ⟨.create 0 "main", .registered hregister, rfl, (hgives.namesake _ rfl (by decide)).2, ?_⟩
  obtain ⟨value, hvalue⟩ := Option.isSome_iff_exists.1 ((hgives.isSome_iff (.value 0)).2 ((hgives.isOf_iff _).2 rfl))
  rw [hvalue, hgives.value_eq _ _ hvalue]
  rfl

end MessageCatalog

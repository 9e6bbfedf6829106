import MessageCatalog.Proofs.Client.Routing

/-!
# Registrations and lookups

A client that is alone with its registry finds what its registrations have returned and nothing else, so every lookup that finds something can be followed back to an act that came before it, `Client.HasRegistered`. Among threads a lookup may come between the publication of a descriptor and its return, so there it is followed back to a registration that has returned it or is about to, `Concurrent.Origin`. Both rest on the same two facts, that what is found is what the table holds, and that the table holds what was registered.
-/

namespace MessageCatalog

namespace Client

/-- What was registered is found under both its keys and under no others, and whatever is found was returned by a registration before. -/
structure RoundTrip (table : TypeTable) (client : Client) (acts : List Act) : Prop where
  /-- From its registration on, a descriptor is found under the type and under every spelling of the text. -/
  binds : ∀ past kind type text rest entry, acts = past ++ .call (.register kind type text) :: rest →
    client.reply table past (.call (.register kind type text)) = .answered (.registered (.ok entry)) →
    (client.after table acts).registry.Binds type text entry
  /-- The same holds of registrations of declared types. -/
  binds_registered : ∀ type entry, HasRegistered table client acts type entry →
    (client.after table acts).registry.Binds type entry.identifier.text entry
  byIdentifier : ∀ text entry,
    client.reply table acts (.call (.query (.byIdentifier text))) = .answered (.identified (.ok (some entry))) →
    Identifier.normalize text = .ok entry.identifier.text ∧
      client.reply table acts (.call (.query (.byType entry.type))) = .answered (.found (some entry)) ∧
      HasRegistered table client acts entry.type entry
  byType : ∀ type entry, client.reply table acts (.call (.query (.byType type))) = .answered (.found (some entry)) →
    entry.type = type ∧
      client.reply table acts (.call (.query (.byIdentifier entry.identifier.text))) = .answered (.identified (.ok (some entry))) ∧
      HasRegistered table client acts type entry

variable {table : TypeTable} {client : Client} {acts : List Act}

theorem reply_query (client : Client) (acts : List Act) (question : Query) :
    client.reply table acts (.call (.query question)) = .answered (question.answer table (client.after table acts).registry) := rfl

theorem reply_byType_eq_some_iff (hcoherent : (client.after table acts).registry.snapshot.Coherent) {type : NativeType}
    {entry : Descriptor} : client.reply table acts (.call (.query (.byType type))) = .answered (.found (some entry)) ↔
      entry ∈ (client.after table acts).registry.snapshot.table ∧ entry.type = type := by
  rw [reply_query, Query.answer, Reply.answered.injEq, Answer.found.injEq, Registry.byType_eq_some_iff hcoherent]

theorem reply_byIdentifier_eq_some_iff (hcoherent : (client.after table acts).registry.snapshot.Coherent) {text : String}
    {entry : Descriptor} :
    client.reply table acts (.call (.query (.byIdentifier text))) = .answered (.identified (.ok (some entry))) ↔
      entry ∈ (client.after table acts).registry.snapshot.table ∧ Identifier.normalize text = .ok entry.identifier.text := by
  rw [reply_query, Query.answer, Reply.answered.injEq, Answer.identified.injEq, Registry.byIdentifier_eq_some_iff hcoherent]

theorem roundTrip (hreachable : client.registry.Reachable table) (hempty : client.registry.snapshot.table = [])
    (acts : List Act) : client.RoundTrip table acts := by
  have hcoherent := (reachable_after hreachable acts).coherent
  have hregistered : ∀ {type entry}, HasRegistered table client acts type entry →
      entry ∈ (client.after table acts).registry.snapshot.table := fun h => (mem_table_after_iff acts).2 (.inr ⟨_, h⟩)
  have horigin : ∀ {entry}, entry ∈ (client.after table acts).registry.snapshot.table →
      HasRegistered table client acts entry.type entry := by
    intro entry hentry
    rw [mem_table_after_iff, hempty] at hentry
    obtain ⟨type, h⟩ := hentry.resolve_left List.not_mem_nil
    rwa [h.type_eq]
  refine ⟨fun past kind type text rest entry hacts hreply => ?binds, fun type entry h => ?registered,
    fun text entry hreply => ?byIdentifier, fun type entry hreply => ?byType⟩
  case binds =>
    have hregister : ((client.after table past).registry.register table kind type text).1 = .ok entry :=
      Answer.registered.inj (Reply.answered.inj hreply)
    have h : HasRegistered table client acts type entry := ⟨past, _, rest, hacts, .register hregister⟩
    obtain ⟨identifier, hparse, -, rfl⟩ := Registry.prepare_eq_ok_iff.1 (Registry.snapshot_of_register_ok hregister).1
    exact Registry.binds_of_mem hcoherent (hregistered h) h.type_eq (Identifier.parse_eq_ok_iff.1 hparse)
  case registered => exact Registry.binds_of_mem hcoherent (hregistered h) h.type_eq entry.identifier.canonical
  case byIdentifier =>
    obtain ⟨hentry, htext⟩ := (reply_byIdentifier_eq_some_iff hcoherent).1 hreply
    exact ⟨htext, (reply_byType_eq_some_iff hcoherent).2 ⟨hentry, rfl⟩, horigin hentry⟩
  case byType =>
    obtain ⟨hentry, rfl⟩ := (reply_byType_eq_some_iff hcoherent).1 hreply
    exact ⟨rfl, (reply_byIdentifier_eq_some_iff hcoherent).2 ⟨hentry, entry.identifier.canonical⟩, horigin hentry⟩

end Client

/-- On a new registry registrations and lookups by either key agree at every moment, whoever uses the registry. A lookup finds what a registration has returned before or, when the two race, what it is about to return. -/
theorem lookups_follow_registrations (table : TypeTable) (serial : Nat) (label : String) :
    (∀ acts, Client.RoundTrip table { registry := Registry.create serial label } acts) ∧
      ∀ calls schedule, Concurrent.RoundTrip table (Concurrent.State.start (Registry.create serial label) calls) schedule :=
  ⟨Client.roundTrip (.create serial label) rfl, Concurrent.roundTrip_run table serial label⟩

end MessageCatalog

import EngineLink.Proofs.Script.OpenInstances

/-!
# Who owns an instance

Clients, cursors, guards, sessions and databases share the handle of an instance, and the last of
them to go closes it.  A world is tidy if the record of its engine is in order, every open handle
belongs to an object, and the names of the objects are in order.  While an object goes there is a
moment in which its handle may belong to nobody: it is loose until it is released.

Main results:

- Theorem {lit}`Tidy.withLink`, {lit}`Tidy.close` and {lit}`Tidy.release`: what is done with the
  handles of a tidy world.
- Theorem {lit}`Shelf.Lawful.put` and {lit}`Shelf.Lawful.drop`: objects come and go.
- Theorem {lit}`Tidy.live_dropAll`: no instance is open after all objects went.
-/

namespace EngineLink
namespace Script

/-! ## Named objects -/

section Names

variable {α : Type} {name : String} {entries : List (String × α)} {e : String × α}

/-- The names are in increasing order. -/
def Named (entries : List (String × α)) : Prop := entries.Pairwise fun a b => a.1 < b.1

theorem named_insert (hnamed : Named entries) (value : α) :
    Named (Entries.insert name value entries) :=
  Entries.ordered_insert name value hnamed

theorem named_without (hnamed : Named entries) : Named (World.without name entries) :=
  hnamed.filter _

/-- A name has one value. -/
theorem find?_of_mem (hnamed : Named entries) (hmem : e ∈ entries) :
    Entries.find? e.1 entries = some e.2 := by
  induction entries with
  | nil => cases hmem
  | cons head rest ih =>
    unfold Named at hnamed ih
    rw [List.pairwise_cons] at hnamed
    rcases List.mem_cons.mp hmem with rfl | hrest
    · simp [Entries.find?]
    · have hne : head.1 ≠ e.1 := by
        intro heq
        exact String.lt_irrefl e.1 (heq ▸ hnamed.1 e hrest)
      have hfound := ih hnamed.2 hrest
      simpa [Entries.find?, hne] using hfound

theorem mem_insert_self (name : String) (value : α) (entries : List (String × α)) :
    (name, value) ∈ Entries.insert name value entries := by
  induction entries with
  | nil => exact List.mem_singleton_self _
  | cons head rest ih =>
    obtain ⟨n, v⟩ := head
    unfold Entries.insert
    by_cases hbefore : name < n
    · rw [if_pos hbefore]
      exact List.mem_cons_self
    · rw [if_neg hbefore]
      by_cases hafter : n < name
      · rw [if_pos hafter]
        exact List.mem_cons_of_mem _ ih
      · rw [if_neg hafter]
        exact List.mem_cons_self

/-- A value takes the place of the one that had its name, and of no other. -/
theorem mem_insert_or_find? (value : α) (hnamed : Named entries) (hmem : e ∈ entries) :
    e ∈ Entries.insert name value entries ∨ Entries.find? name entries = some e.2 := by
  by_cases hname : e.1 = name
  · right
    rw [← hname]
    exact find?_of_mem hnamed hmem
  · left
    clear hnamed
    induction entries with
    | nil => cases hmem
    | cons head rest ih =>
      obtain ⟨n, v⟩ := head
      unfold Entries.insert
      by_cases hbefore : name < n
      · rw [if_pos hbefore]
        exact List.mem_cons_of_mem _ hmem
      · rw [if_neg hbefore]
        by_cases hafter : n < name
        · rw [if_pos hafter]
          rcases List.mem_cons.mp hmem with rfl | hrest
          · exact List.mem_cons_self
          · exact List.mem_cons_of_mem _ (ih hrest)
        · rw [if_neg hafter]
          have hsame : name = n := String.le_antisymm hafter hbefore
          rcases List.mem_cons.mp hmem with rfl | hrest
          · exact absurd hsame.symm hname
          · exact List.mem_cons_of_mem _ hrest

theorem without_of_find?_eq_none (hnone : Entries.find? name entries = none) :
    World.without name entries = entries := by
  unfold Entries.find? at hnone
  rw [Option.map_eq_none_iff, List.find?_eq_none] at hnone
  apply List.filter_eq_self.mpr
  intro e hmem
  exact decide_eq_true fun hname => hnone e hmem (decide_eq_true hname)

/-- A value goes with its name, and no other does. -/
theorem mem_without_or_find? (hnamed : Named entries) (hmem : e ∈ entries) :
    e ∈ World.without name entries ∨ Entries.find? name entries = some e.2 := by
  by_cases hname : e.1 = name
  · right
    rw [← hname]
    exact find?_of_mem hnamed hmem
  · left
    exact List.mem_filter.mpr ⟨hmem, decide_eq_true hname⟩

end Names

section Links

variable {α : Type} {entries : List (String × Held α)} {link : Nat}

/-- The handles that some objects belong to. -/
def links (entries : List (String × Held α)) : List Nat := entries.map fun e => e.2.link

theorem not_mem_links_nil : link ∉ links ([] : List (String × Held α)) :=
  List.not_mem_nil

theorem link_mem_links_insert {name : String} (held : Held α) :
    held.link ∈ links (Entries.insert name held entries) :=
  List.mem_map.mpr ⟨(name, held), mem_insert_self name held entries, rfl⟩

/-- The handles of the objects after one was put in the place of another. -/
theorem mem_links_insert (name : String) (held : Held α) (hnamed : Named entries)
    (hlink : link ∈ links entries) :
    link ∈ links (Entries.insert name held entries) ∨
      (Entries.find? name entries).map Held.link = some link := by
  obtain ⟨e, hmem, rfl⟩ := List.mem_map.mp hlink
  rcases mem_insert_or_find? held hnamed hmem with hin | hfound
  · exact .inl (List.mem_map.mpr ⟨e, hin, rfl⟩)
  · exact .inr (by rw [hfound]; rfl)

/-- The handles of the objects after one was taken away. -/
theorem mem_links_without (name : String) (hnamed : Named entries) (hlink : link ∈ links entries) :
    link ∈ links (World.without name entries) ∨
      (Entries.find? name entries).map Held.link = some link := by
  obtain ⟨e, hmem, rfl⟩ := List.mem_map.mp hlink
  rcases mem_without_or_find? hnamed hmem with hin | hfound
  · exact .inl (List.mem_map.mpr ⟨e, hin, rfl⟩)
  · exact .inr (by rw [hfound]; rfl)

end Links

/-- The objects of a world. -/
structure Objects where
  clients : List (String × Held Nat)
  cursors : List (String × Held Cursor)
  guards : List (String × Held Unit)
  sessions : List (String × Held Session)
  databases : List (String × Held DatabaseObject)
  waiting : List (Held Errand)

namespace Objects

/-- The handles that the objects belong to. -/
def owners (o : Objects) : List Nat :=
  links o.clients ++ links o.cursors ++ links o.guards ++ links o.sessions ++ links o.databases ++
    o.waiting.map Held.link

/-- A handle that objects belong to belongs to an object of one of the kinds. -/
theorem mem_owners_iff {o : Objects} {link : Nat} :
    link ∈ o.owners ↔ link ∈ links o.clients ∨ link ∈ links o.cursors ∨ link ∈ links o.guards ∨
      link ∈ links o.sessions ∨ link ∈ links o.databases ∨ link ∈ o.waiting.map Held.link := by
  simp only [owners, List.mem_append, or_assoc]

/-- The names of all objects are in order. -/
structure AllNamed (o : Objects) : Prop where
  clients : Named o.clients
  cursors : Named o.cursors
  guards : Named o.guards
  sessions : Named o.sessions
  databases : Named o.databases

end Objects

namespace World

section Handles

variable {σ : Type} {w : World σ}

/-- The objects of a world. -/
def objects (w : World σ) : Objects :=
  ⟨w.clients, w.cursors, w.guards, w.sessions, w.databases, w.waiting⟩

/-- Only the instance goes that is given back. -/
theorem objects_release [Hosted σ] (w : World σ) (link : Nat) :
    (w.release link).objects = w.objects := by
  unfold release
  split
  · rfl
  · rfl

theorem refersTo_iff (link : Nat) : w.refersTo link = true ↔ link ∈ w.objects.owners := by
  simp [refersTo, Objects.mem_owners_iff, objects, links, or_assoc]

/-- The numbers of all handles. -/
def numbers (w : World σ) : List Int64 := w.handles.map Handle.raw

/-- The numbers of the handles that are open. -/
def raws (w : World σ) : List Int64 := w.numbers.filter (· ≠ 0)

theorem raw_handle (w : World σ) (link : Nat) : (w.handle link).raw = w.numbers.getD link 0 := by
  simp only [handle, numbers, List.getD_eq_getElem?_getD, List.getElem?_map]
  cases w.handles[link]? <;> rfl

theorem raw_mem_raws {link : Nat} (hraw : (w.handle link).raw ≠ 0) :
    (w.handle link).raw ∈ w.raws := by
  rw [raw_handle, List.getD_eq_getElem?_getD] at hraw ⊢
  cases hfound : w.numbers[link]? with
  | none =>
    rw [hfound] at hraw
    exact absurd rfl hraw
  | some raw =>
    rw [hfound] at hraw
    exact List.mem_filter.mpr ⟨List.mem_of_getElem? hfound, decide_eq_true hraw⟩

/-- What is done with a link changes the number of one handle. -/
theorem numbers_withLink {α : Type} (link : Nat)
    (act : Link (Journaled σ) → α × Link (Journaled σ)) :
    (w.withLink link act).2.numbers =
      w.numbers.set link (act ⟨w.handle link, w.boot.engine⟩).2.handle.raw :=
  List.map_set

theorem set_getD_self (numbers : List Int64) (link : Nat) :
    numbers.set link (numbers.getD link 0) = numbers := by
  rw [List.getD_eq_getElem?_getD]
  by_cases hlink : link < numbers.length
  · rw [List.getElem?_eq_getElem hlink]
    exact List.set_getElem_self hlink
  · exact List.set_eq_of_length_le (Nat.le_of_not_lt hlink)

/-- A handle that is closed is one number less. -/
theorem perm_cons_filter_set {numbers : List Int64} {link : Nat} {raw : Int64}
    (hfound : numbers[link]? = some raw) (hraw : raw ≠ 0) :
    (numbers.filter (· ≠ 0)).Perm (raw :: (numbers.set link 0).filter (· ≠ 0)) := by
  induction numbers generalizing link with
  | nil => cases hfound
  | cons head rest ih =>
    cases link with
    | zero =>
      obtain rfl : head = raw := by simpa using hfound
      simp [hraw]
    | succ link =>
      have hperm := ih (by simpa using hfound)
      by_cases hhead : head = 0
      · simpa [hhead] using hperm
      · simp only [List.set_cons_succ, ne_eq, hhead, not_false_eq_true, decide_true,
          List.filter_cons_of_pos]
        exact (hperm.cons head).trans (List.Perm.swap raw head _)

end Handles

/-! ## Tidy worlds -/

/-- The record of a world's engine is in order, with the handles that are open; what came of the
setup is what was known of it; every open handle belongs to an object, or is loose; and the names
of the objects are in order. -/
structure Tidy {σ : Type} (known : Option (Except String Unit)) (loose : Option Nat)
    (w : World (Recorded σ)) : Prop where
  inOrder : w.boot.InOrder w.raws
  settled : ∀ outcome, known = some outcome → w.boot.outcome = some outcome
  owned : ∀ link, (w.handle link).raw ≠ 0 → link ∈ w.objects.owners ∨ loose = some link
  named : w.objects.AllNamed

section Handling

variable {σ : Type} {known : Option (Except String Unit)} {loose loose' : Option Nat}
  {w w' : World (Recorded σ)}

/-- A handle may be held to be loose. -/
theorem Tidy.loosen (htidy : Tidy known none w) (link : Nat) : Tidy known (some link) w where
  inOrder := htidy.inOrder
  settled := htidy.settled
  owned := by
    intro other hraw
    rcases htidy.owned other hraw with howned | hloose
    · exact .inl howned
    · cases hloose
  named := htidy.named

/-- What came of the setup is known from now on. -/
theorem Tidy.knowing (htidy : Tidy known loose w) : Tidy w.boot.outcome loose w :=
  ⟨htidy.inOrder, fun _ hknown => hknown, htidy.owned, htidy.named⟩

/-- Objects come and go while nothing is done with the handles. -/
theorem Tidy.exchange (htidy : Tidy known loose w) (houtcome : w'.boot.outcome = w.boot.outcome)
    (hcontacts : w'.boot.engine.engine.contacts = w.boot.engine.engine.contacts)
    (hnumbers : w'.numbers = w.numbers) (hnamed : w'.objects.AllNamed)
    (howned : ∀ link, link ∈ w.objects.owners ∨ loose = some link →
      link ∈ w'.objects.owners ∨ loose' = some link) : Tidy known loose' w' where
  inOrder := by
    unfold Bootstrap.InOrder raws
    rw [houtcome, hcontacts, hnumbers]
    exact htidy.inOrder
  settled := by
    rw [houtcome]
    exact htidy.settled
  owned := by
    intro link hraw
    rw [raw_handle, hnumbers, ← raw_handle] at hraw
    exact howned link (htidy.owned link hraw)
  named := hnamed

/-- The engine may change without a contact, and the journal may be read. -/
theorem Tidy.of_contacts (htidy : Tidy known loose w) {engine : Journaled (Recorded σ)}
    (hcontacts : engine.engine.contacts = w.boot.engine.engine.contacts) :
    Tidy known loose { w with boot := { w.boot with engine } } :=
  htidy.exchange rfl hcontacts rfl htidy.named fun _ howned => howned

/-- The engine is set up. -/
theorem Tidy.withBoot (htidy : Tidy known loose w) {boot : Bootstrap (Journaled (Recorded σ))}
    (horder : boot.InOrder w.raws)
    (hsettled : ∀ outcome, w.boot.outcome = some outcome → boot.outcome = some outcome) :
    Tidy known loose { w with boot } :=
  ⟨horder, fun outcome hknown => hsettled outcome (htidy.settled outcome hknown), htidy.owned,
    htidy.named⟩

/-- An instance was opened: its handle is loose. -/
theorem Tidy.addHandle (htidy : Tidy known none w) {boot : Bootstrap (Journaled (Recorded σ))}
    {handle : Handle} (hraw : handle.raw ≠ 0) (horder : boot.InOrder (handle.raw :: w.raws))
    (hsettled : ∀ outcome, w.boot.outcome = some outcome → boot.outcome = some outcome) :
    Tidy known (some w.handles.length) { w with boot, handles := w.handles ++ [handle] } where
  inOrder := by
    obtain ⟨live, hrecord, hperm⟩ := horder
    refine ⟨live, hrecord, hperm.trans ?_⟩
    have hraws : raws { w with boot, handles := w.handles ++ [handle] } =
        w.raws ++ [handle.raw] := by
      simp [raws, numbers, hraw]
    rw [hraws]
    exact (List.perm_append_singleton handle.raw w.raws).symm
  settled := fun outcome hknown => hsettled outcome (htidy.settled outcome hknown)
  owned := by
    intro link hopen
    by_cases hlink : link = w.handles.length
    · exact .inr (congrArg some hlink.symm)
    · have hold : (w.handles ++ [handle]).getD link ⟨0, none, none, 0⟩ = w.handle link := by
        rw [World.handle, List.getD_eq_getElem?_getD, List.getD_eq_getElem?_getD]
        by_cases hlt : link < w.handles.length
        · rw [List.getElem?_append_left hlt]
        · rw [List.getElem?_eq_none, List.getElem?_eq_none]
          · omega
          · simp
            omega
      rw [World.handle, hold] at hopen
      rcases htidy.owned link hopen with howned | hloose
      · exact .inl howned
      · cases hloose
  named := htidy.named

/-- Errands come and go. -/
theorem Tidy.setWaiting (htidy : Tidy known none w) {waiting : List (Held Errand)}
    (hlinks : ∀ link, link ∈ w.waiting.map Held.link →
      link ∈ waiting.map Held.link ∨ loose = some link) : Tidy known loose { w with waiting } := by
  obtain ⟨hclients, hcursors, hguards, hsessions, hdatabases⟩ := htidy.named
  refine htidy.exchange rfl rfl rfl ⟨hclients, hcursors, hguards, hsessions, hdatabases⟩ ?_
  intro link howned
  have hwaiting := hlinks link
  rw [Objects.mem_owners_iff] at howned ⊢
  simp only [objects] at howned ⊢
  grind

/-- The link of a handle is in use. -/
theorem Tidy.inUse (htidy : Tidy known loose w) (link : Nat) :
    ∃ live, live.Perm w.raws ∧
      InUse (w.handle link).raw ⟨w.boot.outcome, live⟩ ⟨w.handle link, w.boot.engine⟩ := by
  obtain ⟨live, hrecord, hperm⟩ := htidy.inOrder
  exact ⟨live, hperm, rfl, hrecord, fun hraw => hperm.mem_iff.mpr (raw_mem_raws hraw)⟩

variable [Hosted σ]

/-- Every call on the link of a handle leaves the world tidy. -/
theorem Tidy.withLink {α : Type} (htidy : Tidy known loose w) (link : Nat)
    {act : Link (Journaled (Recorded σ)) → α × Link (Journaled (Recorded σ))}
    (hact : Ordinary act) : Tidy known loose (w.withLink link act).2 := by
  obtain ⟨live, hperm, hbefore⟩ := htidy.inUse link
  have hafter := hact _ (stable_inUse _ _) _ hbefore
  have hnumbers : (w.withLink link act).2.numbers = w.numbers := by
    rw [numbers_withLink, hafter.raw_eq, raw_handle, set_getD_self]
  exact
    { inOrder := ⟨live, hafter.record, by rw [raws, hnumbers]; exact hperm⟩
      settled := htidy.settled
      owned := by
        intro other hraw
        rw [raw_handle, hnumbers, ← raw_handle] at hraw
        exact htidy.owned other hraw
      named := htidy.named }

/-- The numbers of the handles after one was closed. -/
theorem numbers_close (w : World (Recorded σ)) (link : Nat) :
    (w.withLink link fun l => ((), l.close)).2.numbers = w.numbers.set link 0 := by
  rw [numbers_withLink]
  unfold Link.close
  by_cases hraw : (w.handle link).raw = 0
  · rw [if_pos hraw, hraw]
  · rw [if_neg hraw]

/-- A handle that is closed stays closed, and any other is as it was. -/
theorem raw_close (w : World (Recorded σ)) (link other : Nat) :
    ((w.withLink link fun l => ((), l.close)).2.handle other).raw =
      if other = link then 0 else (w.handle other).raw := by
  rw [raw_handle, numbers_close, raw_handle, List.getD_eq_getElem?_getD, List.getElem?_set]
  by_cases hother : other = link
  · subst hother
    by_cases hlink : other < w.numbers.length <;> simp [hlink]
  · rw [if_neg (Ne.symm hother), if_neg hother, List.getD_eq_getElem?_getD]

/-- Closing a handle leaves the world tidy. -/
theorem Tidy.close (htidy : Tidy known loose w) (link : Nat) :
    Tidy known loose (w.withLink link fun l => ((), l.close)).2 := by
  obtain ⟨live, hperm, hbefore⟩ := htidy.inUse link
  have horder : (w.withLink link fun l => ((), l.close)).2.boot.InOrder
      (w.withLink link fun l => ((), l.close)).2.raws := by
    rw [raws, numbers_close]
    by_cases hraw : (w.handle link).raw = 0
    · -- nothing is done to a handle that is closed
      have hnumbers : w.numbers.set link 0 = w.numbers := by
        rw [← hraw, raw_handle, set_getD_self]
      have hlink : Link.close ⟨w.handle link, w.boot.engine⟩ = ⟨w.handle link, w.boot.engine⟩ :=
        if_pos hraw
      rw [hnumbers]
      refine ⟨live, ?_, hperm⟩
      simp only [World.withLink, hlink]
      exact hbefore.record
    · have hfound : w.numbers[link]? = some (w.handle link).raw := by
        rw [raw_handle, List.getD_eq_getElem?_getD] at hraw ⊢
        cases hfound : w.numbers[link]? with
        | none =>
          rw [hfound] at hraw
          exact absurd rfl hraw
        | some raw => rfl
      have hclosed := (hperm.trans (perm_cons_filter_set hfound hraw)).erase (w.handle link).raw
      rw [List.erase_cons_head] at hclosed
      exact ⟨_, hbefore.record_close hraw, hclosed⟩
  exact
    { inOrder := horder
      settled := htidy.settled
      owned := by
        intro other hraw
        rw [raw_close] at hraw
        by_cases hother : other = link
        · rw [if_pos hother] at hraw
          exact absurd rfl hraw
        · rw [if_neg hother] at hraw
          exact htidy.owned other hraw
      named := htidy.named }

/-- A handle that is released is loose no more: it belongs to an object, or it is closed. -/
theorem Tidy.release {link : Nat} (htidy : Tidy known (some link) w) :
    Tidy known none (w.release link) := by
  unfold World.release
  by_cases hrefers : w.refersTo link = true
  · rw [if_pos hrefers]
    apply htidy.exchange rfl rfl rfl htidy.named
    intro other howned
    rcases howned with howned | hloose
    · exact .inl howned
    · cases hloose
      exact .inl ((refersTo_iff link).mp hrefers)
  · rw [if_neg hrefers]
    have hclosed := htidy.close link
    exact
      { inOrder := hclosed.inOrder
        settled := hclosed.settled
        owned := by
          intro other hraw
          rcases hclosed.owned other hraw with howned | hloose
          · exact .inl howned
          · cases hloose
            rw [raw_close, if_pos rfl] at hraw
            exact absurd rfl hraw
        named := hclosed.named }

end Handling

end World

/-! ## Objects come and go -/

namespace Shelf

/-- A shelf is one of the lists of objects: how it is found among them and put back, and that an
object that goes makes calls on its link and no more. -/
structure Lawful {σ α : Type} [Hosted σ] (s : Shelf σ α) (view : Objects → List (String × Held α))
    (update : List (String × Held α) → Objects → Objects) : Prop where
  entries_eq : ∀ w, s.entries w = view w.objects := by intros; rfl
  objects_replace : ∀ entries w, (s.replace entries w).objects = update entries w.objects := by
    intros; rfl
  boot_replace : ∀ entries w, (s.replace entries w).boot = w.boot := by intros; rfl
  handles_replace : ∀ entries w, (s.replace entries w).handles = w.handles := by intros; rfl
  view_update : ∀ entries o, view (update entries o) = entries := by intros; rfl
  update_update : ∀ entries entries' o, update entries (update entries' o) = update entries o := by
    intros; rfl
  update_view : ∀ o, update (view o) o = o := by intros; rfl
  named_view : ∀ o, o.AllNamed → Named (view o)
  named_update : ∀ entries o, o.AllNamed → Named entries → (update entries o).AllNamed
  mem_owners : ∀ entries o link, link ∈ (update entries o).owners ↔
      link ∈ links entries ∨ link ∈ (update [] o).owners := by
    intros
    simp only [Objects.mem_owners_iff, not_mem_links_nil]
    grind
  discarded : ∀ object, Ordinary fun link => ((), s.discard object link)

section Laws

variable {σ : Type} [Hosted σ]

theorem lawful_clients :
    (clients : Shelf σ Nat).Lawful Objects.clients
      fun entries o => { o with clients := entries } where
  named_view _ hnamed := hnamed.clients
  named_update _ _ hnamed hentries := { hnamed with clients := hentries }
  discarded _ _ _ _ hlink := hlink

theorem lawful_cursors :
    (cursors : Shelf σ Cursor).Lawful Objects.cursors
      fun entries o => { o with cursors := entries } where
  named_view _ hnamed := hnamed.cursors
  named_update _ _ hnamed hentries := { hnamed with cursors := hentries }
  discarded := asks_discardCursor

theorem lawful_guards :
    (guards : Shelf σ Unit).Lawful Objects.guards
      fun entries o => { o with guards := entries } where
  named_view _ hnamed := hnamed.guards
  named_update _ _ hnamed hentries := { hnamed with guards := hentries }
  discarded _ := (asks_finishTransaction .rollback).of_link_eq fun _ => rfl

theorem lawful_sessions :
    (sessions : Shelf σ Session).Lawful Objects.sessions
      fun entries o => { o with sessions := entries } where
  named_view _ hnamed := hnamed.sessions
  named_update _ _ hnamed hentries := { hnamed with sessions := hentries }
  discarded := asks_discardSession

theorem lawful_databases :
    (databases : Shelf σ DatabaseObject).Lawful Objects.databases
      fun entries o => { o with databases := entries } where
  named_view _ hnamed := hnamed.databases
  named_update _ _ hnamed hentries := { hnamed with databases := hentries }
  discarded database := asks_discardSession database.session

end Laws

namespace Lawful

section Moving

variable {σ α : Type} [Hosted σ] {s : Shelf (Recorded σ) α}
  {view : Objects → List (String × Held α)} {update : List (String × Held α) → Objects → Objects}
  {known : Option (Except String Unit)} {loose loose' : Option Nat} {w : World (Recorded σ)}

theorem named (hs : s.Lawful view update) (htidy : w.Tidy known loose) : Named (s.entries w) := by
  rw [hs.entries_eq]
  exact hs.named_view _ htidy.named

/-- The objects of a kind are replaced: what belonged to them or was loose still does or is. -/
theorem replace (hs : s.Lawful view update) (htidy : w.Tidy known loose)
    {entries : List (String × Held α)} (hnamed : Named entries)
    (hlinks : ∀ link, link ∈ links (s.entries w) ∨ loose = some link →
      link ∈ links entries ∨ loose' = some link) : (s.replace entries w).Tidy known loose' := by
  apply htidy.exchange
  · rw [hs.boot_replace]
  · rw [hs.boot_replace]
  · rw [World.numbers, hs.handles_replace, World.numbers]
  · rw [hs.objects_replace]
    exact hs.named_update entries _ htidy.named hnamed
  · intro link howned
    have hbefore := hs.mem_owners (view w.objects) w.objects link
    rw [hs.update_view, ← hs.entries_eq] at hbefore
    rw [hs.objects_replace, hs.mem_owners]
    have hafter := hlinks link
    grind

/-- An object that was taken away goes, and its handle is loose no more. -/
theorem dispose (hs : s.Lawful view update) {held : Held α}
    (htidy : w.Tidy known (some held.link)) :
    (s.dispose held w).Tidy known none :=
  (htidy.withLink held.link (hs.discarded held.object)).release

/-- An object is named: its handle is loose no more, and neither is that of the one that had the
name. -/
theorem put (hs : s.Lawful view update) {held : Held α} (htidy : w.Tidy known (some held.link))
    (name : String) : (s.put name held w).Tidy known none := by
  have hnamed := hs.named htidy
  have hafter : (s.replace (Entries.insert name held (s.entries w)) w).Tidy known
      ((Entries.find? name (s.entries w)).map Held.link) := by
    apply hs.replace htidy (named_insert hnamed held)
    intro link howned
    rcases howned with hlink | hloose
    · exact mem_links_insert name held hnamed hlink
    · cases hloose
      exact .inl (link_mem_links_insert held)
  unfold Shelf.put
  cases hfound : Entries.find? name (s.entries w) with
  | none =>
    rw [hfound] at hafter
    exact hafter
  | some old =>
    rw [hfound] at hafter
    exact hs.dispose hafter

/-- An object is taken away: its handle is loose. -/
theorem takeAway (hs : s.Lawful view update) (htidy : w.Tidy known none) {name : String}
    {held : Held α} (hfound : Entries.find? name (s.entries w) = some held) :
    (s.replace (World.without name (s.entries w)) w).Tidy known (some held.link) := by
  have hnamed := hs.named htidy
  apply hs.replace htidy (named_without hnamed)
  intro link howned
  rcases howned with hlink | hloose
  · have hgone := mem_links_without name hnamed hlink
    rw [hfound] at hgone
    exact hgone
  · cases hloose

/-- The object with a name goes. -/
theorem drop (hs : s.Lawful view update) (htidy : w.Tidy known none) (name : String) :
    (s.drop name w).Tidy known none := by
  unfold Shelf.drop
  cases hfound : Entries.find? name (s.entries w) with
  | none => exact htidy
  | some held => exact hs.dispose (hs.takeAway htidy hfound)

/-- An object changes and stays with its handle. -/
theorem renew (hs : s.Lawful view update) (htidy : w.Tidy known none) {name : String}
    {held : Held α}
    (hfound : Entries.find? name (s.entries w) = some held) (object : α) :
    (s.replace (Entries.insert name ⟨held.link, object⟩ (s.entries w)) w).Tidy known none := by
  have hnamed := hs.named htidy
  apply hs.replace htidy (named_insert hnamed _)
  intro link howned
  rcases howned with hlink | hloose
  · have hkept := mem_links_insert name ⟨held.link, object⟩ hnamed hlink
    rw [hfound] at hkept
    rcases hkept with hkept | hsame
    · exact .inl hkept
    · cases hsame
      exact .inl (link_mem_links_insert ⟨held.link, object⟩)
  · cases hloose

/-- All objects of a kind go. -/
theorem dropEach (hs : s.Lawful view update) (htidy : w.Tidy known none) :
    (s.dropEach w).Tidy known none := by
  unfold Shelf.dropEach
  generalize (s.entries w).map (·.1) = names
  induction names generalizing w with
  | nil => exact htidy
  | cons name rest ih => exact ih (hs.drop htidy name)

end Moving

section Emptying

variable {σ α : Type} [Hosted σ] {s : Shelf σ α} {view : Objects → List (String × Held α)}
  {update : List (String × Held α) → Objects → Objects}

theorem objects_dispose (held : Held α) (w : World σ) : (s.dispose held w).objects = w.objects :=
  World.objects_release _ _

/-- An object that goes is one object less, and nothing else about the objects changes. -/
theorem objects_drop (hs : s.Lawful view update) (name : String) (w : World σ) :
    (s.drop name w).objects = update (World.without name (view w.objects)) w.objects := by
  unfold Shelf.drop
  rw [hs.entries_eq]
  cases hfound : Entries.find? name (view w.objects) with
  | none => rw [without_of_find?_eq_none hfound, hs.update_view]
  | some held => rw [objects_dispose, hs.objects_replace]

/-- What is left of the objects of a kind after some of them went. -/
theorem objects_foldl_drop (hs : s.Lawful view update) (names : List String) (w : World σ) :
    (names.foldl (fun w name => s.drop name w) w).objects =
      update ((view w.objects).filter (·.1 ∉ names)) w.objects := by
  induction names generalizing w with
  | nil =>
    have hall : (view w.objects).filter (·.1 ∉ ([] : List String)) = view w.objects :=
      List.filter_eq_self.mpr (by simp)
    rw [List.foldl_nil, hall, hs.update_view]
  | cons name rest ih =>
    rw [List.foldl_cons, ih, hs.objects_drop, hs.view_update, hs.update_update, World.without,
      List.filter_filter]
    congr 2
    funext e
    simp [Bool.and_comm]

theorem objects_dropEach (hs : s.Lawful view update) (w : World σ) :
    (s.dropEach w).objects = update [] w.objects := by
  unfold Shelf.dropEach
  rw [hs.objects_foldl_drop, hs.entries_eq]
  congr 1
  apply List.filter_eq_nil_iff.mpr
  intro e hmem
  simpa using ⟨e.2, hmem⟩

end Emptying

end Lawful
end Shelf

namespace World

section Ending

variable {σ : Type} [Hosted σ] {known : Option (Except String Unit)}

/-- Nothing but waiting errands is left after all objects went. -/
theorem objects_dropAll (w : World σ) :
    w.dropAll.objects = ⟨[], [], [], [], [], w.waiting⟩ := by
  simp only [dropAll, Shelf.lawful_clients.objects_dropEach, Shelf.lawful_sessions.objects_dropEach,
    Shelf.lawful_databases.objects_dropEach, Shelf.lawful_guards.objects_dropEach,
    Shelf.lawful_cursors.objects_dropEach]
  rfl

theorem Tidy.dropAll {w : World (Recorded σ)} (htidy : w.Tidy known none) :
    w.dropAll.Tidy known none := by
  apply Shelf.lawful_clients.dropEach
  apply Shelf.lawful_sessions.dropEach
  apply Shelf.lawful_databases.dropEach
  apply Shelf.lawful_guards.dropEach
  exact Shelf.lawful_cursors.dropEach htidy

/-- No instance is open after all objects went, if no errand waits. -/
theorem Tidy.live_dropAll {w : World (Recorded σ)} (htidy : w.Tidy known none)
    (hwaiting : w.waiting = []) :
    Usage.start.after w.dropAll.boot.engine.engine.contacts =
      some ⟨w.dropAll.boot.outcome, []⟩ := by
  have hafter := htidy.dropAll
  have hraws : w.dropAll.raws = [] := by
    apply List.filter_eq_nil_iff.mpr
    intro raw hmem
    obtain ⟨link, hlink⟩ := List.mem_iff_getElem?.mp hmem
    have hraw : (w.dropAll.handle link).raw = raw := by
      rw [raw_handle, List.getD_eq_getElem?_getD, hlink]
      rfl
    by_cases hzero : raw = 0
    · simp [hzero]
    · rw [← hraw] at hzero
      rcases hafter.owned link hzero with howned | hloose
      · rw [objects_dropAll, hwaiting] at howned
        cases howned
      · cases hloose
  obtain ⟨live, hrecord, hperm⟩ := hafter.inOrder
  rw [hraws] at hperm
  rw [hrecord, hperm.eq_nil]

end Ending

end World
end Script
end EngineLink

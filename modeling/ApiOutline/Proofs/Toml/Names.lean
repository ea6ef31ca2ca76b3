/-
A table has every name once.

A document is read entry by entry and header by header, and all that either of them does to the
outermost table is to set a name in it, or nothing (`Draft.put`, `Draft.openTable`). To set a name
is to add it where it was not, or to change what stands under it where it was. So the keys of a
table are texts, and no text comes twice (`Named`): this is true of the empty table, each step keeps
it, and it is true of what the whole text writes (`named_parse`).
-/
import ApiOutline.Proofs.Outcome
import ApiOutline.Proofs.Value.Entries
import ApiOutline.Toml.Reader

set_option autoImplicit false

namespace ApiOutline.Toml

open Value (Entries lookup put put_cons_str key_of_mem_put)

/-- The keys of entries are texts, each of them different from the others. -/
structure Named (es : Entries) : Prop where
  texts : ∀ e ∈ es, ∃ name : String, e.1 = .str name
  nodup : (es.map Prod.fst).Nodup

/-- The empty table has no name twice. -/
theorem named_nil : Named [] :=
  ⟨fun _ h => absurd h List.not_mem_nil, List.nodup_nil⟩

namespace Named

/-- Without its first entry a table has no name twice either. -/
theorem tail {e : Scalar × Value} {es : Entries} (h : Named (e :: es)) : Named es :=
  ⟨fun f hf => h.texts f (List.mem_cons_of_mem e hf), (List.nodup_cons.1 h.nodup).2⟩

/-- The name in front does not come again. -/
theorem ne_head {e : Scalar × Value} {es : Entries} (h : Named (e :: es)) :
    ∀ f ∈ es, f.1 ≠ e.1 :=
  fun _ hf heq => (List.nodup_cons.1 h.nodup).1 (heq ▸ List.mem_map_of_mem hf)

/-- **Setting a name keeps it so.** The name is changed where it stands, or it is new and goes to
the end. -/
theorem set {es : Entries} (h : Named es) (name : String) (v : Value) :
    Named (es.set name v) := by
  induction es with
  | nil =>
    refine ⟨fun e he => ⟨name, by rw [List.mem_singleton.1 he]⟩, ?_⟩
    exact List.nodup_cons.2 ⟨List.not_mem_nil, List.nodup_nil⟩
  | cons e es ih =>
    rw [Entries.set, put_cons_str]
    split
    -- the name stands in front and keeps its place
    · next hkey =>
      refine ⟨fun f hf => ?_, h.nodup⟩
      rcases List.mem_cons.1 hf with rfl | hf
      · exact ⟨name, hkey⟩
      · exact h.texts f (List.mem_cons_of_mem e hf)
    -- it does not, so it is set in the rest, which gains no other name
    · next hkey =>
      have hrest := ih h.tail
      refine ⟨List.forall_mem_cons.2 ⟨h.texts e List.mem_cons_self, hrest.texts⟩, ?_⟩
      refine List.nodup_cons.2 ⟨fun hmem => ?_, hrest.nodup⟩
      obtain ⟨f, hf, heq⟩ := List.mem_map.1 hmem
      rcases key_of_mem_put hf with hname | ⟨g, hg, hsame⟩
      · exact hkey (heq.symm.trans hname)
      · exact h.ne_head g hg (hsame.symm.trans heq)

end Named

/-! ## Steps -/

namespace Draft

/-- A value is put under a name in the table itself, or further inside, and either way one name is
set. -/
theorem named_assign {v : Value} {names : List String} {es fs : Entries}
    (h : assign v names es = some fs) (hes : Named es) : Named fs := by
  unfold assign at h
  split at h
  · exact nomatch h
  · split at h
    · exact nomatch h
    · exact Option.some.inj h ▸ hes.set _ v
  · split at h
    · obtain ⟨inner, -, rfl⟩ := Option.map_eq_some_iff.1 h
      exact hes.set _ _
    · obtain ⟨inner, -, rfl⟩ := Option.map_eq_some_iff.1 h
      exact hes.set _ _
    · exact nomatch h

/-- Changing a table inside changes what stands under one name. How deep inside it is does not
matter for the names outside. -/
theorem named_changeAt {f : Entries → Option Entries}
    (hf : ∀ es fs : Entries, f es = some fs → Named es → Named fs) {place : List String}
    {es fs : Entries} (h : changeAt f place es = some fs) (hes : Named es) : Named fs := by
  unfold changeAt at h
  split at h
  · exact hf _ _ h hes
  · split at h
    · obtain ⟨inner, -, rfl⟩ := Option.map_eq_some_iff.1 h
      exact hes.set _ _
    · obtain ⟨items, -, rfl⟩ := Option.map_eq_some_iff.1 h
      exact hes.set _ _
    · exact nomatch h

/-- An entry of the text sets one name of the outermost table. -/
theorem named_put {d e : Draft} {path : List String} {v : Value} (h : d.put path v = some e)
    (hd : Named d.entries) : Named e.entries := by
  obtain ⟨es, hes, rfl⟩ := Option.map_eq_some_iff.1 h
  exact named_changeAt (fun _ _ => named_assign) hes hd

/-- A header that leads through a name changes what stands under it. -/
theorem named_of_bind {es fs : Entries} (hes : Named es) {name : String} {f : Entries → Value}
    {inner : Option (Entries × List String)} {implied : List String}
    (h : (inner.bind fun r => some (es.set name (f r.1), r.2)) = some (fs, implied)) :
    Named fs := by
  obtain ⟨r, -, hr⟩ := Option.bind_eq_some_iff.1 h
  obtain ⟨rfl, -⟩ := Prod.mk.inj (Option.some.inj hr)
  exact hes.set name _

/-- A header leads through names, of which the first is the only one that is set in the table it
starts from. -/
theorem named_enter {many lenient : Bool} {implied implied' names : List String} {es fs : Entries}
    (h : enter many lenient implied names es = some (fs, implied')) (hes : Named es) :
    Named fs := by
  unfold enter at h
  split at h
  · exact (Prod.mk.inj (Option.some.inj h)).1 ▸ hes
  · dsimp only at h
    split at h
    · -- a name that is new
      split at h
      · exact (Prod.mk.inj (Option.some.inj h)).1 ▸ hes.set _ _
      · exact named_of_bind hes h
    · split at h
      · exact (Prod.mk.inj (Option.some.inj h)).1 ▸ hes
      · split at h
        · split at h
          · exact nomatch h
          · exact (Prod.mk.inj (Option.some.inj h)).1 ▸ hes
        · -- a name that was led through, or that stands for a list of tables
          split at h
          · split at h
            · exact nomatch h
            · exact named_of_bind hes h
          · next items _ =>
            split at h
            · split at h
              · exact (Prod.mk.inj (Option.some.inj h)).1 ▸ hes.set _ _
              · exact nomatch h
            · split at h
              · exact named_of_bind
                  (f := fun inner => .list (items.dropLast ++ [.object inner])) hes h
              · exact nomatch h
          · exact nomatch h

/-- So opening a table sets at most one name of the outermost one. -/
theorem named_openTable {d e : Draft} {many : Bool} {names : List String}
    (h : d.openTable many names = some e) (hd : Named d.entries) : Named e.entries := by
  obtain ⟨⟨es, implied⟩, hes, rfl⟩ := Option.map_eq_some_iff.1 h
  exact named_enter hes hd

end Draft

/-! ## Lines -/

/-- Reading an entry changes the table by putting a value. -/
theorem named_readEntry {d e : Draft} {cs rest : List Char}
    (h : readEntry d cs = some (e, rest)) (hd : Named d.entries) : Named e.entries := by
  obtain ⟨⟨key, behind⟩, -, h⟩ := Option.bind_eq_some_iff.1 h
  obtain ⟨names, -, h⟩ := Option.bind_eq_some_iff.1 h
  obtain ⟨-, -, h⟩ := Option.bind_eq_some_iff.1 h
  obtain ⟨⟨⟨kind, v⟩, behind⟩, -, h⟩ := Option.bind_eq_some_iff.1 h
  obtain ⟨next, hput, h⟩ := Option.bind_eq_some_iff.1 h
  obtain ⟨line, -, h⟩ := Option.bind_eq_some_iff.1 h
  obtain ⟨rfl, -⟩ := Prod.mk.inj (Option.some.inj h)
  exact Draft.named_put hput hd

/-- Reading a header changes it by opening a table. -/
theorem named_readHeader {d e : Draft} {cs rest : List Char}
    (h : readHeader d cs = some (e, rest)) (hd : Named d.entries) : Named e.entries := by
  obtain ⟨⟨names, behind⟩, -, h⟩ := Option.bind_eq_some_iff.1 h
  obtain ⟨behind, -, h⟩ := Option.bind_eq_some_iff.1 h
  obtain ⟨next, hopen, h⟩ := Option.bind_eq_some_iff.1 h
  obtain ⟨line, -, h⟩ := Option.bind_eq_some_iff.1 h
  obtain ⟨rfl, -⟩ := Prod.mk.inj (Option.some.inj h)
  exact Draft.named_openTable hopen hd

/-- The lines of a text, one after the other: each is blank, a comment, a header or an entry. By
induction on the fuel. -/
theorem named_readLines {fuel : Nat} {d e : Draft} {cs : List Char}
    (h : readLines fuel d cs = some e) (hd : Named d.entries) : Named e.entries := by
  induction fuel generalizing d cs with
  | zero => exact nomatch h
  | succ fuel ih =>
    unfold readLines at h
    split at h
    · exact Option.some.inj h ▸ hd
    · exact ih h hd
    · exact ih h hd
    · obtain ⟨⟨next, rest⟩, hnext, h⟩ := Option.bind_eq_some_iff.1 h
      exact ih h (named_readHeader hnext hd)
    · obtain ⟨⟨next, rest⟩, hnext, h⟩ := Option.bind_eq_some_iff.1 h
      exact ih h (named_readEntry hnext hd)

/-- **What a text writes has every name once.** -/
theorem named_parse {text : String} {table : Entries} (h : parse text = some table) :
    Named table := by
  obtain ⟨d, hd, rfl⟩ := Option.map_eq_some_iff.1 h
  exact named_readLines hd named_nil

end ApiOutline.Toml

import Mathlib.Data.List.TakeWhile
import TimedLock.Proofs.Config.Limits
import TimedLock.Proofs.Ensemble.ConnectString
import TimedLock.Proofs.Ensemble.Search

/-!
# Configurations that name servers

A configuration is refused if its connect string is blank. One that is accepted need not name any
server for that: it may consist of commas, have nothing before its slash or a port that is no number
(`accepted_without_servers`).

**Theorem (`names_servers_iff`).** The connect string of an accepted configuration names servers, at
least one and each by a host with nothing blank around it, exactly if it has an item that is not
blank before the first slash, and every such item either has no colon or has a character that is not
blank before its last colon and a whole number after it. Then a check probes a server, and only
servers that are named. A connect string without commas, slashes and colons always names one server.

An item is trimmed, so its host begins with a character that is not blank. What the colon leaves of
it may end with one, or be empty (`reads_named_iff`).
-/

namespace TimedLock

/-- An accepted text is not blank. -/
theorem Config.trim_ne_nil_of_check {c : Config} {s : String} (h : c.check = .ok ())
    (hs : c.connectString = .text s) : Text.trim s.toList ≠ [] := by
  have hblank := Config.display_of_not_isBlank (Config.check_eq_ok_iff.1 h).1
  rw [hs, Value.display_text] at hblank
  exact mt (Text.trim_eq_nil_iff s.toList).1 hblank

namespace Ensemble

open Text (isBlank)

/-- A host that is not empty, with nothing blank around it. -/
def IsNamed (host : String) : Prop := host ≠ "" ∧ Text.Tight isBlank host.toList

/-- What names servers: at least one, and each by its host. -/
def NamesServers (v : Value) : Prop :=
  ∃ found, servers v = .ok found ∧ found ≠ [] ∧ ∀ x ∈ found, IsNamed x.host

/-- An item that names a server. If there is a colon, then the last one follows a character that is
not blank, and a whole number follows it. -/
def NamesServer (item : List Char) : Prop :=
  ':' ∈ item → ∃ front c port n, item = front ++ c :: ':' :: port ∧ isBlank c = false ∧
    ':' ∉ port ∧ Text.readInteger port = .ok n

variable {item cs : List Char} {v : Value}

/-! ## Items -/

theorem of_mem_items (h : item ∈ items cs) : item ≠ [] ∧ Text.Tight isBlank item := by
  obtain ⟨hmem, hne⟩ := List.mem_filter.1 h
  obtain ⟨piece, -, rfl⟩ := List.mem_map.1 hmem
  exact ⟨by simpa using hne, Text.tight_trimBy isBlank piece⟩

theorem isNamed_ofList_iff : IsNamed (String.ofList cs) ↔ cs ≠ [] ∧ Text.Tight isBlank cs := by
  rw [IsNamed, String.toList_ofList, ne_eq, ne_eq, String.ofList_eq_empty_iff]

/-- An item that names a server reads as one that is named, and no other one does. -/
theorem reads_named_iff (hne : item ≠ []) (htight : Text.Tight isBlank item) :
    (∃ x, Reads item x ∧ IsNamed x.host) ↔ NamesServer item := by
  constructor
  · rintro ⟨x, hreads, hnamed⟩ hcolon
    cases hreads with
    | alone hnone => exact absurd hcolon hnone
    | @withPort host port n hport hn =>
      obtain ⟨hhost, htight⟩ := isNamed_ofList_iff.1 hnamed
      obtain ⟨front, c, rfl⟩ := (List.eq_nil_or_concat host).resolve_left hhost
      refine ⟨front, c, port, n, by simp, htight.last c (by simp), hport, hn⟩
  · intro hnames
    by_cases hcolon : ':' ∈ item
    · obtain ⟨front, c, port, n, rfl, hc, hport, hn⟩ := hnames hcolon
      have hitem : front ++ c :: ':' :: port = (front ++ [c]) ++ ':' :: port := by simp
      have hreads : Reads ((front ++ [c]) ++ ':' :: port) ⟨String.ofList (front ++ [c]), n⟩ :=
        .withPort hport hn
      -- the host begins as the item does, and ends before the colon
      refine ⟨_, hitem ▸ hreads, isNamed_ofList_iff.2 ⟨by simp, ?_, ?_⟩⟩
      · intro d hd
        refine htight.head d ?_
        rw [hitem, List.head?_append, Option.mem_def.1 hd]
        rfl
      · intro d hd
        rw [List.getLast?_concat] at hd
        obtain rfl : c = d := Option.some.inj hd
        exact hc
    · exact ⟨_, .alone hcolon, isNamed_ofList_iff.2 ⟨hne, htight⟩⟩

/-! ## Connect strings -/

theorem exists_forall₂_iff {α β : Type} {R : α → β → Prop} {p : β → Prop} {xs : List α} :
    (∃ ys, List.Forall₂ R xs ys ∧ ∀ y ∈ ys, p y) ↔ ∀ x ∈ xs, ∃ y, R x y ∧ p y := by
  induction xs with
  | nil => simp
  | cons x rest ih =>
    simp only [List.forall₂_cons_left_iff, List.forall_mem_cons, ← ih]
    constructor
    · rintro ⟨_, ⟨y, ys, hy, hys, rfl⟩, hall⟩
      obtain ⟨hp, hps⟩ := List.forall_mem_cons.1 hall
      exact ⟨⟨y, hy, hp⟩, ys, hys, hps⟩
    · rintro ⟨⟨y, hy, hp⟩, ys, hys, hps⟩
      exact ⟨y :: ys, ⟨y, ys, hy, hys, rfl⟩, List.forall_mem_cons.2 ⟨hp, hps⟩⟩

theorem namesServers_text_iff {s : String} :
    NamesServers (.text s) ↔ items s.toList ≠ [] ∧ ∀ item ∈ items s.toList, NamesServer item := by
  have hnamed : (∀ item ∈ items s.toList, NamesServer item) ↔
      ∃ found, List.Forall₂ Reads (items s.toList) found ∧ ∀ x ∈ found, IsNamed x.host := by
    rw [exists_forall₂_iff]
    refine forall₂_congr fun item hitem => ?_
    obtain ⟨hne, htight⟩ := of_mem_items hitem
    exact (reads_named_iff hne htight).symm
  rw [hnamed]
  simp only [NamesServers, servers_eq_ok_iff]
  constructor
  · rintro ⟨found, hreads, hne, hall⟩
    refine ⟨fun hnil => hne ?_, found, hreads, hall⟩
    rw [hnil] at hreads
    exact List.forall₂_nil_left_iff.1 hreads
  · rintro ⟨hne, found, hreads, hall⟩
    refine ⟨found, hreads, fun hnil => hne ?_, hall⟩
    rw [hnil] at hreads
    exact List.forall₂_nil_right_iff.1 hreads

/-- Text without commas, slashes and colons is one item, if it is not blank. -/
theorem items_of_plain {s : String} (hmark : HasNoMark s) (hne : Text.trim s.toList ≠ []) :
    items s.toList = [Text.trim s.toList] := by
  have hbody : s.toList.takeWhile (· ≠ '/') = s.toList :=
    List.takeWhile_eq_self_iff.2 (forall_ne_slash hmark.2)
  rw [items, hbody, Text.pieces_eq_singleton hmark.1, List.map_singleton, List.filter_singleton,
    List.isEmpty_eq_false_iff.2 hne]
  rfl

theorem servers_of_plain {s : String} (hmark : HasNoMark s) (hcolon : ':' ∉ s.toList)
    (hne : Text.trim s.toList ≠ []) :
    servers (.text s) = .ok [⟨Text.trimText s, defaultPort⟩] := by
  rw [servers_eq_ok_iff, items_of_plain hmark hne]
  exact .cons (.alone fun hmem => hcolon (Text.mem_of_mem_trimBy hmem)) .nil

/-! ## Configurations -/

variable {σ : Type} [Journal σ]

/-- A check for what names servers probes at least one, and only ones that are named. -/
theorem probes_named {c : Config} (h : NamesServers c.connectString) (probe : Probe σ)
    (timeout : Value) (s : σ) :
    let ran := isAvailableFor (probing probe) timeout c (s, [])
    ran.2.2 ≠ [] ∧ ∀ p ∈ ran.2.2, IsNamed p.server.host := by
  obtain ⟨found, hfound, hne, hnamed⟩ := h
  obtain ⟨asked, result, t, hran, hsearched, -⟩ := anyAccepts_searched probe timeout found (s, [])
  rw [isAvailableFor, isAvailable_eq_searching hfound, searching_apply hran]
  refine ⟨hsearched.ne_nil hne, fun p hp => hnamed p.server ?_⟩
  exact hsearched.isPrefix.subset (List.mem_map_of_mem hp)

/-- **When an accepted configuration names servers.** -/
theorem names_servers_iff {c : Config} {s : String} (hc : c.check = .ok ())
    (hs : c.connectString = .text s) :
    (NamesServers c.connectString ↔
      items s.toList ≠ [] ∧ ∀ item ∈ items s.toList, NamesServer item) ∧
    (NamesServers c.connectString → ∀ (probe : Probe σ) (timeout : Value) (w : σ),
      let ran := isAvailableFor (probing probe) timeout c (w, [])
      ran.2.2 ≠ [] ∧ ∀ p ∈ ran.2.2, IsNamed p.server.host) ∧
    (HasNoMark s → ':' ∉ s.toList →
      servers c.connectString = .ok [⟨Text.trimText s, defaultPort⟩] ∧
        NamesServers c.connectString) := by
  have hne := Config.trim_ne_nil_of_check hc hs
  refine ⟨hs ▸ namesServers_text_iff, probes_named, fun hmark hcolon => ?_⟩
  rw [hs]
  have hserver := servers_of_plain hmark hcolon hne
  refine ⟨hserver, _, hserver, by simp, ?_⟩
  intro x hx
  rw [List.mem_singleton.1 hx]
  exact isNamed_ofList_iff.2 ⟨hne, Text.tight_trimBy isBlank s.toList⟩

/-- The configuration with a connect string, and the defaults otherwise. -/
def configFor (s : String) : Config := { Config.defaults with connectString := .text s }

/-- Two servers are named, and one of them at least is probed. -/
theorem two_servers_named :
    (configFor "zk1:2181, zk2/app").check = .ok () ∧
      (configFor "zk1:2181, zk2/app").connectString = .text "zk1:2181, zk2/app" ∧
      servers (.text "zk1:2181, zk2/app") = .ok [⟨"zk1", 2181⟩, ⟨"zk2", 2181⟩] ∧
      NamesServers (.text "zk1:2181, zk2/app") ∧
      ∀ (probe : Probe (List Entry)) (timeout : Value) (w : List Entry),
        (isAvailableFor (probing probe) timeout (configFor "zk1:2181, zk2/app") (w, [])).2.2
          ≠ [] := by
  have hc : (configFor "zk1:2181, zk2/app").check = .ok () := rfl
  have hitems : items "zk1:2181, zk2/app".toList = ["zk1:2181".toList, "zk2".toList] := rfl
  have hport : NamesServer "zk1:2181".toList := fun _ =>
    ⟨"zk".toList, '1', "2181".toList, 2181, rfl, by decide, by decide, rfl⟩
  have hhost : NamesServer "zk2".toList := fun hcolon => absurd hcolon (by decide)
  obtain ⟨hiff, hprobes, -⟩ := names_servers_iff (σ := List Entry) hc rfl
  have hnames : NamesServers (.text "zk1:2181, zk2/app") := hiff.2 <| by
    rw [hitems]
    refine ⟨by simp, fun item hitem => ?_⟩
    rcases List.mem_pair.1 hitem with rfl | rfl
    · exact hport
    · exact hhost
  exact ⟨hc, rfl, rfl, hnames, fun probe timeout w => (hprobes hnames probe timeout w).1⟩

/-- What is accepted may name nobody, have a port that cannot be read, or name a host that ends with
a blank character. -/
theorem accepted_without_servers :
    ((configFor ",").check = .ok () ∧ servers (.text ",") = .ok [] ∧
      ¬ NamesServers (.text ",")) ∧
    ((configFor "zk1:http").check = .ok () ∧
      servers (.text "zk1:http") = .error (Problem.badPort "http").fault ∧
      ¬ NamesServers (.text "zk1:http")) ∧
    ((configFor "zk1 :2181").check = .ok () ∧
      servers (.text "zk1 :2181") = .ok [⟨"zk1 ", 2181⟩] ∧
      ¬ NamesServers (.text "zk1 :2181")) := by
  have hnobody : servers (.text ",") = .ok [] := rfl
  have hunread : servers (.text "zk1:http") = .error (Problem.badPort "http").fault := rfl
  have hblank : servers (.text "zk1 :2181") = .ok [⟨"zk1 ", 2181⟩] := rfl
  refine ⟨⟨rfl, hnobody, ?_⟩, ⟨rfl, hunread, ?_⟩, rfl, hblank, ?_⟩
  · rintro ⟨found, hfound, hne, -⟩
    rw [hnobody] at hfound
    exact hne (Except.ok.inj hfound).symm
  · rintro ⟨found, hfound, -⟩
    rw [hunread] at hfound
    cases hfound
  · rintro ⟨found, hfound, -, hnamed⟩
    rw [hblank] at hfound
    obtain rfl := Except.ok.inj hfound
    have hlast := (hnamed ⟨"zk1 ", 2181⟩ (by simp)).2.last ' ' rfl
    cases hlast

end Ensemble

end TimedLock

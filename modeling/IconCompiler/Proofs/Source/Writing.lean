import IconCompiler.Proofs.Source.Token
import IconCompiler.Proofs.Text.Split
import IconCompiler.Source.Layout

/-! # Writing a layout line by line

    A writer knows the text written so far and the depth of the next line; a
    layout tells it which lines to write and where to go deeper and back.  The
    writer arrives at the text of the layout and at the depth it started from
    (`writeAll_allActs`).

    When every line of a layout is a single line that can be read on its own,
    the layout as a whole is read line by line, whatever its indentation
    (`scan_renderAll`). -/

namespace IconCompiler.Source

open Text

/-! ## The writer -/

/-- What a writer is told to do. -/
inductive Act where
  | line (text : String)
  | indent
  | dedent
  deriving DecidableEq

/-- The text written so far, and the depth of the next line. -/
structure Writer where
  written : List Char
  depth : Nat
  deriving DecidableEq

/-- Do one thing; there is no depth above the outermost one. -/
def Writer.act (writer : Writer) : Act → Writer
  | .line text => { writer with written := writer.written ++ renderText writer.depth text }
  | .indent => { writer with depth := writer.depth + 1 }
  | .dedent => { writer with depth := writer.depth - 1 }

/-- Do several things in order. -/
def Writer.actAll (writer : Writer) (acts : List Act) : Writer :=
  acts.foldl Writer.act writer

mutual

/-- What a writer has to do for a piece of a layout. -/
def Layout.acts : Layout → List Act
  | .line text => [.line text]
  | .block opening body closing =>
    .line opening :: .indent :: (Layout.allActs body ++ [.dedent, .line closing])

/-- What a writer has to do for pieces of a layout. -/
def Layout.allActs : List Layout → List Act
  | [] => []
  | piece :: rest => Layout.acts piece ++ Layout.allActs rest

end

theorem actAll_append (writer : Writer) (first second : List Act) :
    writer.actAll (first ++ second) = (writer.actAll first).actAll second :=
  List.foldl_append

mutual

/-- A piece is written at the writer's depth, and the depth is kept. -/
theorem actAll_acts (piece : Layout) (writer : Writer) :
    writer.actAll piece.acts
      = { writer with written := writer.written ++ piece.render writer.depth } := by
  match piece with
  | .line text =>
      rw [Layout.acts, Layout.render]
      rfl
  | .block opening body closing =>
      rw [Layout.acts, Layout.render]
      -- the body is written one level deeper, and `dedent` takes that level back
      have hinside := actAll_allActs body
        ⟨writer.written ++ renderText writer.depth opening, writer.depth + 1⟩
      show Writer.actAll
          ⟨writer.written ++ renderText writer.depth opening, writer.depth + 1⟩
          (Layout.allActs body ++ [.dedent, .line closing]) = _
      rw [actAll_append, hinside]
      simp [Writer.actAll, Writer.act]

/-- Pieces are written at the writer's depth, and the depth is kept. -/
theorem actAll_allActs (pieces : List Layout) (writer : Writer) :
    writer.actAll (Layout.allActs pieces)
      = { writer with written := writer.written ++ Layout.renderAll writer.depth pieces } := by
  match pieces with
  | [] =>
      rw [Layout.allActs, Layout.renderAll, List.append_nil]
      rfl
  | piece :: rest =>
      rw [Layout.allActs, Layout.renderAll, actAll_append, actAll_acts piece writer,
        actAll_allActs rest]
      simp

end

/-! ## Single lines -/

/-- A text that stays one line when it is written, with nothing cut off. -/
structure IsLine (text : String) : Prop where
  unbroken : '\n' ∉ text.toList
  no_return : text.toList.getLast? ≠ some '\r'

theorem renderText_of_isLine {text : String} (h : IsLine text) (depth : Nat) :
    renderText depth text = renderLine depth text.toList := by
  have hsplit : splitAtAll (· == '\n') text.toList = [text.toList] := by
    refine splitAtAll_of_not_mem ?_
    intro c hc
    refine beq_eq_false_iff_ne.mpr ?_
    rintro rfl
    exact h.unbroken hc
  rw [renderText, hsplit, List.flatMap_singleton, dropReturn, if_neg h.no_return]

/-- A single line gives one physical line: the only line break stands at its end. -/
theorem physical_line {text : String} (h : IsLine text) (depth : Nat) :
    ∃ content, renderText depth text = content ++ ['\n'] ∧ '\n' ∉ content := by
  rw [renderText_of_isLine h, renderLine]
  by_cases hnil : text.toList = []
  · exact ⟨[], by rw [if_pos hnil], List.not_mem_nil⟩
  · refine ⟨indentation depth ++ text.toList, by rw [if_neg hnil], ?_⟩
    intro hmem
    rcases List.mem_append.mp hmem with hblank | htext
    · exact absurd (List.eq_of_mem_replicate hblank) (by decide)
    · exact h.unbroken htext

/-! ## Reading a layout -/

/-- A line that is read on its own as the tokens `found`. -/
structure LineReads (text : String) (found : List Token) : Prop extends IsLine text where
  reads : scan .between (text.toList ++ ['\n']) = some (found, .between)

/-- A layout that is read line by line as the tokens `found`. -/
inductive Layout.Reads : List Layout → List Token → Prop
  | nil : Layout.Reads [] []
  | line {text : String} {found : List Token} {rest : List Layout} {more : List Token} :
      LineReads text found → Layout.Reads rest more →
        Layout.Reads (.line text :: rest) (found ++ more)
  | block {opening closing : String} {body rest : List Layout}
      {first inside last more : List Token} :
      LineReads opening first → Layout.Reads body inside → LineReads closing last →
        Layout.Reads rest more →
          Layout.Reads (.block opening body closing :: rest)
            (first ++ (inside ++ (last ++ more)))

theorem scan_indentation (depth : Nat) :
    scan .between (indentation depth) = some ([], .between) := by
  have hblanks : ∀ n, scan .between (List.replicate n ' ') = some ([], .between) := by
    intro n
    induction n with
    | zero => rfl
    | succ n ih =>
        rw [List.replicate_succ, scan_cons_of (show step .between ' ' = _ from rfl), ih]
        rfl
  exact hblanks (4 * depth)

theorem scan_renderText {text : String} {found : List Token} (h : LineReads text found)
    (depth : Nat) : scan .between (renderText depth text) = some (found, .between) := by
  rw [renderText_of_isLine h.toIsLine, renderLine]
  by_cases hnil : text.toList = []
  -- an empty line is written without indentation
  · have hreads := h.reads
    rw [hnil] at hreads
    rw [if_pos hnil]
    exact hreads
  · rw [if_neg hnil, List.append_assoc]
    exact scan_append_eq (scan_indentation depth) h.reads

/-- A layout is read as the tokens of its lines, at any depth. -/
theorem scan_renderAll {pieces : List Layout} {found : List Token}
    (h : Layout.Reads pieces found) (depth : Nat) :
    scan .between (Layout.renderAll depth pieces) = some (found, .between) := by
  induction h generalizing depth with
  | nil =>
      rw [Layout.renderAll]
      rfl
  | line hline _ ih =>
      rw [Layout.renderAll, Layout.render]
      exact scan_append_eq (scan_renderText hline depth) (ih depth)
  | block hopening _ hclosing _ ihbody ihrest =>
      rw [Layout.renderAll, Layout.render, List.append_assoc, List.append_assoc]
      exact scan_append_eq (scan_renderText hopening depth)
        (scan_append_eq (ihbody (depth + 1))
          (scan_append_eq (scan_renderText hclosing depth) (ihrest depth)))

/-- Every line that a writer is told to write for such a layout is a single one. -/
theorem isLine_of_reads {pieces : List Layout} {found : List Token}
    (h : Layout.Reads pieces found) :
    ∀ text, Act.line text ∈ Layout.allActs pieces → IsLine text := by
  induction h with
  | nil =>
      intro text hmem
      rw [Layout.allActs] at hmem
      exact absurd hmem List.not_mem_nil
  | line hline _ ih =>
      intro text hmem
      rw [Layout.allActs, Layout.acts] at hmem
      rcases List.mem_append.mp hmem with hhere | hlater
      · cases List.mem_singleton.mp hhere
        exact hline.toIsLine
      · exact ih text hlater
  | block hopening _ hclosing _ ihbody ihrest =>
      intro text hmem
      simp only [Layout.allActs, Layout.acts, List.mem_append, List.mem_cons, Act.line.injEq,
        reduceCtorEq, List.not_mem_nil, or_false, false_or] at hmem
      rcases hmem with (rfl | hinside | rfl) | hlater
      · exact hopening.toIsLine
      · exact ihbody text hinside
      · exact hclosing.toIsLine
      · exact ihrest text hlater

/-- Layouts that follow each other are read one after the other. -/
theorem Layout.Reads.append {first second : List Layout} {found more : List Token}
    (h₁ : Layout.Reads first found) (h₂ : Layout.Reads second more) :
    Layout.Reads (first ++ second) (found ++ more) := by
  induction h₁ with
  | nil => exact h₂
  | line hline _ ih =>
      rw [List.append_assoc]
      exact .line hline ih
  | block hopening hbody hclosing _ _ ih =>
      rw [List.append_assoc, List.append_assoc, List.append_assoc]
      exact .block hopening hbody hclosing ih

end IconCompiler.Source

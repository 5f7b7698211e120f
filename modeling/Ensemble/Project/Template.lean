/-
# Templates of a new project

The files that a new project starts with, under their paths in the project's directory.
-/

namespace Ensemble.Template

/-- A text of lines. -/
def page (lines : List String) : String :=
  String.join (lines.map (· ++ "\n"))

/-- The settings of a new project. -/
def settingsPage : String := page [
  "# Maki project configuration.",
  "",
  "[endpoint]",
  "# \"ollama\" talks to an Ollama-compatible HTTP server.",
  "# \"echo\" returns every prompt unchanged, handy for dry runs.",
  "provider = \"ollama\"",
  "url = \"http://localhost\"",
  "port = 11434",
  "model = \"llama3\"",
  "# Sampling temperature in [0, 1].",
  "temperature = 0.2",
  "timeout-secs = 120",
  "",
  "[coordination]",
  "# Maximum endpoint calls in flight during parallel and hybrid coordination.",
  "parallel-limit = 4"]

/-- An agent that gathers facts. -/
def researcherPage : String := page [
  "---",
  "name: researcher",
  "role: research analyst",
  "description: Gathers and summarises background material on a topic",
  "---",
  "",
  "Collect the key facts needed to answer the task.",
  "Present them as a short bulleted list and note anything uncertain."]

/-- An agent that checks drafts. -/
def reviewerPage : String := page [
  "---",
  "name: reviewer",
  "role: editor",
  "description: Checks drafts for accuracy, clarity and tone",
  "temperature: 0.1",
  "---",
  "",
  "Review the draft in the context against the research it was based on.",
  "List concrete corrections first, then an overall verdict."]

/-- An agent that writes. -/
def writerPage : String := page [
  "---",
  "name: writer",
  "role: technical writer",
  "description: Turns notes and research into clear prose",
  "temperature: 0.6",
  "---",
  "",
  "Write in plain, direct language for the stated audience.",
  "Use only facts present in the context. Do not invent sources."]

/-- A workflow of one step. -/
def quickNotePage : String := page [
  "name: quick-note",
  "description: Single-step workflow for trying out an endpoint",
  "steps:",
  "  - name: note",
  "    agent: writer",
  "    task: \"Write a three-sentence note explaining what this project is for\""]

/-- A workflow whose second step builds on the first. -/
def researchAndWritePage : String := page [
  "name: research-and-write",
  "description: Research a topic, then write a short article from the findings",
  "steps:",
  "  - name: research",
  "    agent: researcher",
  "    task: \"Collect the key facts about the Rust ownership model\"",
  "  - name: draft",
  "    agent: writer",
  "    task: \"Write a 300-word introduction based on the research\"",
  "    context:",
  "      audience: developers new to Rust"]

/-- A workflow that stops at the first failure. -/
def reviewLoopPage : String := page [
  "name: review-loop",
  "description: Draft, review, then revise with the review in context",
  "fail-fast: true",
  "steps:",
  "  - name: draft",
  "    agent: writer",
  "    task: \"Draft release notes for the upcoming version\"",
  "  - name: review",
  "    agent: reviewer",
  "    task: \"Review the draft release notes\"",
  "  - name: revision",
  "    agent: writer",
  "    task: \"Revise the draft using the review\""]

/-- Every template under its path. -/
def all : List (String × String) :=
  [("agents/researcher.md", researcherPage),
    ("agents/reviewer.md", reviewerPage),
    ("agents/writer.md", writerPage),
    ("config.toml", settingsPage),
    ("workflows/quick-note.yaml", quickNotePage),
    ("workflows/research-and-write.yaml", researchAndWritePage),
    ("workflows/review-loop.yaml", reviewLoopPage)]

/-- The template with a path. -/
def find? (path : String) : Option String :=
  all.lookup path

/-- The paths of the templates whose path starts with a text, in order. -/
def below (start : String) : List String :=
  (all.map Prod.fst).filter fun path => start.toList.isPrefixOf path.toList

end Ensemble.Template

import FixturePragmas.Dialect

/-!
# The dialects that are built in

The dialects in their order, which decides between two that match a path equally well. Block openers
are listed without their closers: what closes a comment is prose to the reader of declarations.
-/

namespace FixturePragmas.Dialect

/-- Comments after a number sign. -/
def hash : List String := ["#"]

/-- Comments after two slashes. -/
def slashes : List String := ["//"]

/-- Comments after two slashes, and block comments. -/
def cFamily : List String := ["//", "/*"]

/-- Comments of markup. -/
def markup : List String := ["<!--"]

/-- Comments of markup, and of the scripts embedded in it. -/
def component : List String := ["<!--", "//"]

/-- Comments after two dashes. -/
def dashes : List String := ["--"]

/-- The dialects that need no settings. -/
def builtIn : List Dialect :=
  [
    { name := "python", openers := hash, extensions := [".py", ".pyi", ".pyw"],
      description := "Python sources" },
    { name := "shell", openers := hash, extensions := [".sh", ".bash", ".zsh"],
      description := "POSIX shell and Bash scripts" },
    { name := "ruby", openers := hash, extensions := [".rb"],
      fileNames := ["Gemfile", "Rakefile"], description := "Ruby sources" },
    { name := "perl", openers := hash, extensions := [".pl", ".pm"],
      description := "Perl sources" },
    { name := "r", openers := hash, extensions := [".r", ".R"], description := "R sources" },
    { name := "yaml", openers := hash, extensions := [".yaml", ".yml"],
      description := "YAML documents" },
    { name := "toml", openers := hash, extensions := [".toml"],
      description := "TOML documents" },
    { name := "dockerfile", openers := hash, extensions := [".dockerfile"],
      fileNames := ["Dockerfile", "Containerfile"], description := "Dockerfiles" },
    { name := "makefile", openers := hash, extensions := [".mk"],
      fileNames := ["Makefile", "GNUmakefile", "makefile"], description := "Makefiles" },
    { name := "terraform", openers := ["#", "//"], extensions := [".tf", ".tfvars", ".hcl"],
      description := "Terraform / HCL configuration" },
    { name := "go", openers := slashes, extensions := [".go"], description := "Go sources" },
    { name := "c", openers := cFamily, extensions := [".c", ".h"],
      description := "C sources and headers" },
    { name := "cpp", openers := cFamily,
      extensions := [".cc", ".cpp", ".cxx", ".hh", ".hpp", ".hxx"],
      description := "C++ sources and headers" },
    { name := "cs", openers := cFamily, extensions := [".cs"], description := "C# sources" },
    { name := "java", openers := cFamily, extensions := [".java"],
      description := "Java sources" },
    { name := "kotlin", openers := cFamily, extensions := [".kt", ".kts"],
      description := "Kotlin sources" },
    { name := "scala", openers := cFamily, extensions := [".scala", ".sc"],
      description := "Scala sources" },
    { name := "swift", openers := cFamily, extensions := [".swift"],
      description := "Swift sources" },
    { name := "rust", openers := slashes, extensions := [".rs"], description := "Rust sources" },
    { name := "javascript", openers := cFamily, extensions := [".js", ".mjs", ".cjs", ".jsx"],
      description := "JavaScript sources (*.js, *.mjs, *.cjs, *.jsx)" },
    { name := "typescript", openers := cFamily,
      extensions := [".ts", ".mts", ".cts", ".tsx", ".d.ts"],
      description := "TypeScript sources" },
    { name := "php", openers := ["//", "#"], extensions := [".php"],
      description := "PHP sources" },
    { name := "jsonc", openers := slashes, extensions := [".jsonc"],
      description := "JSON with comments" },
    { name := "html", openers := markup, extensions := [".html", ".htm"],
      description := "HyperText Markup Language (HTML)" },
    { name := "xml", openers := markup, extensions := [".xml", ".xsd", ".xsl", ".xslt", ".svg"],
      description := "XML documents" },
    { name := "markdown", openers := markup, extensions := [".md", ".markdown"],
      description := "Markdown documents (HTML comments)" },
    { name := "vue", openers := component, extensions := [".vue"],
      description := "Vue single-file components" },
    { name := "svelte", openers := component, extensions := [".svelte"],
      description := "Svelte components" },
    { name := "sql", openers := dashes, extensions := [".sql"], description := "SQL scripts" },
    { name := "lua", openers := dashes, extensions := [".lua"], description := "Lua sources" },
    { name := "haskell", openers := dashes, extensions := [".hs"],
      description := "Haskell sources" },
    { name := "css", openers := ["/*"], extensions := [".css"],
      description := "Cascading Style Sheets (CSS)" },
    { name := "scss", openers := cFamily, extensions := [".scss", ".less"],
      description := "SCSS and Less stylesheets" }]

end FixturePragmas.Dialect

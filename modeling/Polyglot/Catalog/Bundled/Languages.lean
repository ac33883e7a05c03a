import Polyglot.Language

namespace Polyglot.Bundled

def languages : List Language := [
  { name := "Awk", category := .programming, color := .text "#c30e9b"
    extensions := [".awk", ".auk", ".gawk", ".mawk", ".nawk"]
    interpreters := ["awk", "gawk", "mawk", "nawk"] },
  { name := "Batchfile", category := .programming, color := .text "#C1F12E"
    extensions := [".bat", ".cmd"]
    aliases := ["bat", "batch", "dosbatch", "winbatch"] },
  { name := "C", category := .programming, color := .text "#555555"
    extensions := [".c", ".cats", ".h", ".idc"]
    interpreters := ["tcc"] },
  { name := "C#", category := .programming, color := .text "#178600"
    extensions := [".cs", ".cake", ".csx"]
    aliases := ["csharp", "cake", "cakescript"] },
  { name := "C++", category := .programming, color := .text "#f34b7d"
    extensions := [".cpp", ".c++", ".cc", ".cp", ".cxx", ".h", ".h++", ".hh", ".hpp", ".hxx",
      ".inc", ".ino", ".ipp", ".tcc", ".tpp"]
    aliases := ["cpp"] },
  { name := "CMake", category := .programming, color := .text "#DA3434"
    filenames := ["CMakeLists.txt"]
    extensions := [".cmake", ".cmake.in"] },
  { name := "CSS", category := .markup, color := .text "#563d7c"
    extensions := [".css"] },
  { name := "Clojure", category := .programming, color := .text "#db5855"
    filenames := ["riemann.config"]
    extensions := [".clj", ".bb", ".cljc", ".cljs", ".edn"]
    interpreters := ["bb"] },
  { name := "CoffeeScript", category := .programming, color := .text "#244776"
    filenames := ["Cakefile"]
    extensions := [".coffee", "._coffee", ".cake", ".cjsx", ".iced"]
    interpreters := ["coffee"]
    aliases := ["coffee", "coffee-script"] },
  { name := "Coq", category := .programming, color := .text "#d0b68c"
    extensions := [".coq", ".v"] },
  { name := "Dart", category := .programming, color := .text "#00B4AB"
    extensions := [".dart"]
    interpreters := ["dart"] },
  { name := "Diff", category := .data
    extensions := [".diff", ".patch"]
    aliases := ["udiff"] },
  { name := "Dockerfile", category := .programming, color := .text "#384d54"
    filenames := ["Containerfile", "Dockerfile"]
    extensions := [".dockerfile"]
    aliases := ["Containerfile"] },
  { name := "Elixir", category := .programming, color := .text "#6e4a7e"
    filenames := ["mix.lock"]
    extensions := [".ex", ".exs"]
    interpreters := ["elixir"] },
  { name := "Erlang", category := .programming, color := .text "#B83998"
    filenames := ["Emakefile", "rebar.config", "rebar.config.lock", "rebar.lock"]
    extensions := [".erl", ".app.src", ".es", ".escript", ".hrl", ".xrl", ".yrl"]
    interpreters := ["escript"] },
  { name := "GCC Machine Description", category := .programming, color := .text "#FFCFAB"
    extensions := [".md"] },
  { name := "Git Attributes", category := .data, color := .text "#F44D27", group := .text "INI"
    filenames := [".gitattributes"]
    aliases := ["gitattributes"] },
  { name := "Go", category := .programming, color := .text "#00ADD8"
    extensions := [".go"]
    aliases := ["golang"] },
  { name := "Go Module", category := .data, color := .text "#00ADD8"
    filenames := ["go.mod", "go.work"]
    aliases := ["go.mod", "go-mod"] },
  { name := "Groovy", category := .programming, color := .text "#4298b8"
    filenames := ["Jenkinsfile"]
    extensions := [".groovy", ".gradle", ".gvy"]
    interpreters := ["groovy"] },
  { name := "HTML", category := .markup, color := .text "#e34c26"
    extensions := [".html", ".hta", ".htm", ".xht", ".xhtml"]
    aliases := ["xhtml"] },
  { name := "HTML+ERB", category := .markup, color := .text "#701516", group := .text "HTML"
    extensions := [".erb", ".erb.deface", ".rhtml"]
    aliases := ["erb", "rhtml", "html+ruby"] },
  { name := "Ignore List", category := .data, color := .text "#000000", group := .text "INI"
    filenames := [".atomignore", ".babelignore", ".bzrignore", ".coffeelintignore", ".cvsignore",
      ".dockerignore", ".eleventyignore", ".eslintignore", ".gitignore", ".markdownlintignore",
      ".nodemonignore", ".npmignore", ".prettierignore", ".stylelintignore", ".vercelignore",
      ".vscodeignore", "gitignore-global", "gitignore_global"]
    extensions := [".gitignore"]
    aliases := ["ignore", "gitignore", "git-ignore"] },
  { name := "INI", category := .data, color := .text "#d1dbe0"
    filenames := [".coveragerc", ".flake8", ".gitconfig", ".pylintrc", "buildozer.spec",
      "setup.cfg"]
    extensions := [".ini", ".cfg", ".cnf", ".prefs", ".pro", ".properties"]
    aliases := ["dosini"] },
  { name := "Java", category := .programming, color := .text "#b07219"
    extensions := [".java", ".jav", ".jsh"] },
  { name := "JSON", category := .data, color := .text "#292929"
    filenames := [".arcconfig", ".htmlhintrc", ".tern-config", ".tern-project", ".watchmanconfig",
      "Pipfile.lock", "composer.lock", "flake.lock", "mcmod.info"]
    extensions := [".json", ".4DForm", ".avsc", ".geojson", ".gltf", ".har", ".jsonl", ".mcmeta",
      ".tfstate", ".topojson", ".webapp", ".webmanifest"]
    aliases := ["geojson", "jsonl", "topojson"] },
  { name := "JSON with Comments", category := .data, color := .text "#292929", group := .text "JSON"
    filenames := [".babelrc", ".devcontainer.json", ".eslintrc.json", ".jscsrc", ".jshintrc",
      ".swcrc", "api-extractor.json", "devcontainer.json", "jsconfig.json",
      "language-configuration.json", "tsconfig.json", "tslint.json"]
    extensions := [".jsonc", ".code-snippets", ".code-workspace", ".sublime-settings"]
    aliases := ["jsonc"] },
  { name := "JavaScript", category := .programming, color := .text "#f1e05a"
    filenames := ["Jakefile"]
    extensions := [".js", "._js", ".cjs", ".es", ".es6", ".jsm", ".jsx", ".mjs"]
    interpreters := ["chakra", "d8", "gjs", "js", "node", "nodejs", "qjs", "rhino", "v8",
      "v8-shell"]
    aliases := ["js", "node"] },
  { name := "Julia", category := .programming, color := .text "#a270ba"
    extensions := [".jl"]
    interpreters := ["julia"] },
  { name := "Kotlin", category := .programming, color := .text "#A97BFF"
    extensions := [".kt", ".ktm", ".kts"] },
  { name := "Limbo", category := .programming
    extensions := [".b", ".m"] },
  { name := "Lua", category := .programming, color := .text "#000080"
    filenames := [".luacheckrc"]
    extensions := [".lua", ".nse", ".p8", ".rockspec", ".wlua"]
    interpreters := ["lua"] },
  { name := "M", category := .programming
    extensions := [".mumps", ".m"]
    aliases := ["mumps"] },
  { name := "MATLAB", category := .programming, color := .text "#e16737"
    extensions := [".matlab", ".m"]
    aliases := ["octave"] },
  { name := "Makefile", category := .programming, color := .text "#427819"
    filenames := ["BSDmakefile", "GNUmakefile", "Kbuild", "Makefile", "Makefile.am",
      "Makefile.in", "Makefile.inc", "makefile", "mkfile"]
    extensions := [".mak", ".d", ".make", ".makefile", ".mk", ".mkfile"]
    interpreters := ["make"]
    aliases := ["bsdmake", "make", "mf"] },
  { name := "Markdown", category := .prose, color := .text "#083fa1"
    filenames := ["contents.lr"]
    extensions := [".md", ".livemd", ".markdown", ".mdown", ".mdwn", ".mkd", ".mkdn", ".mkdown",
      ".ronn", ".scd"]
    aliases := ["md", "pandoc"] },
  { name := "Mathematica", category := .programming, color := .text "#dd1100"
    extensions := [".mathematica", ".cdf", ".m", ".ma", ".mt", ".nb", ".nbp", ".wl", ".wlt"]
    aliases := ["mma", "wolfram", "wolfram language"] },
  { name := "Mercury", category := .programming, color := .text "#ff2b2b"
    extensions := [".m", ".moo"]
    interpreters := ["mmi"] },
  { name := "Objective-C", category := .programming, color := .text "#438eff"
    extensions := [".m", ".h"]
    aliases := ["obj-c", "objc", "objectivec"] },
  { name := "Objective-C++", category := .programming, color := .text "#6866fb"
    extensions := [".mm"]
    aliases := ["obj-c++", "objc++", "objectivec++"] },
  { name := "PHP", category := .programming, color := .text "#4F5D95"
    filenames := [".php", ".php_cs", ".php_cs.dist", "Phakefile"]
    extensions := [".php", ".aw", ".ctp", ".fcgi", ".inc", ".php3", ".php4", ".php5", ".phps",
      ".phpt"]
    interpreters := ["php"]
    aliases := ["inc"] },
  { name := "PLSQL", category := .programming, color := .text "#dad8d8"
    extensions := [".pls", ".bdy", ".ddl", ".fnc", ".pck", ".pkb", ".pks", ".plb", ".plsql",
      ".prc", ".spc", ".sql", ".tpb", ".tps", ".trg", ".vw"] },
  { name := "PLpgSQL", category := .programming, color := .text "#336790"
    extensions := [".pgsql", ".sql"] },
  { name := "Pascal", category := .programming, color := .text "#E3F171"
    extensions := [".pas", ".dfm", ".dpr", ".inc", ".lpr", ".pascal", ".pp"]
    interpreters := ["instantfpc"]
    aliases := ["delphi", "objectpascal"] },
  { name := "Perl", category := .programming, color := .text "#0298c3"
    filenames := [".latexmkrc", "Makefile.PL", "Rexfile", "ack", "cpanfile", "latexmkrc"]
    extensions := [".pl", ".al", ".cgi", ".fcgi", ".perl", ".ph", ".plx", ".pm", ".psgi", ".t"]
    interpreters := ["cperl", "perl"]
    aliases := ["cperl"] },
  { name := "Prolog", category := .programming, color := .text "#74283c"
    extensions := [".pl", ".plt", ".pro", ".prolog", ".yap"]
    interpreters := ["swipl", "yap"] },
  { name := "Python", category := .programming, color := .text "#3572A5"
    filenames := [".gclient", "DEPS", "SConscript", "SConstruct", "wscript"]
    extensions := [".py", ".cgi", ".fcgi", ".gyp", ".gypi", ".lmi", ".py3", ".pyde", ".pyi",
      ".pyp", ".pyt", ".pyw", ".rpy", ".spec", ".tac", ".wsgi", ".xpy"]
    interpreters := ["python", "python2", "python3", "py", "pypy", "pypy3"]
    aliases := ["python3", "rusthon"] },
  { name := "QMake", category := .programming
    extensions := [".pro", ".pri"]
    interpreters := ["qmake"] },
  { name := "R", category := .programming, color := .text "#198CE7"
    filenames := [".Rprofile", "expr-dist"]
    extensions := [".r", ".rd", ".rsx"]
    interpreters := ["Rscript"]
    aliases := ["Rscript", "splus"] },
  { name := "Raku", category := .programming, color := .text "#0000fb"
    extensions := [".6pl", ".6pm", ".nqp", ".p6", ".p6l", ".p6m", ".pl", ".pl6", ".pm", ".pm6",
      ".raku", ".rakumod", ".t"]
    interpreters := ["perl6", "raku", "rakudo"]
    aliases := ["perl6", "perl-6"] },
  { name := "RenderScript", category := .programming
    extensions := [".rs", ".rsh"] },
  { name := "Ruby", category := .programming, color := .text "#701516"
    filenames := [".irbrc", ".pryrc", ".simplecov", "Brewfile", "Capfile", "Dangerfile",
      "Fastfile", "Gemfile", "Guardfile", "Podfile", "Rakefile", "Thorfile", "Vagrantfile"]
    extensions := [".rb", ".builder", ".gemspec", ".god", ".jbuilder", ".podspec", ".rabl",
      ".rake", ".rbi", ".rbw", ".ru", ".ruby", ".thor"]
    interpreters := ["ruby", "macruby", "rake", "jruby", "rbx"]
    aliases := ["jruby", "macruby", "rake", "rb", "rbx"] },
  { name := "Rust", category := .programming, color := .text "#dea584"
    extensions := [".rs", ".rs.in"]
    aliases := ["rs"] },
  { name := "SCSS", category := .markup, color := .text "#c6538c"
    extensions := [".scss"] },
  { name := "SQL", category := .data, color := .text "#e38c00"
    extensions := [".sql", ".cql", ".ddl", ".inc", ".mysql", ".prc", ".tab", ".udf", ".viw"] },
  { name := "Shell", category := .programming, color := .text "#89e051"
    filenames := [".bash_aliases", ".bash_logout", ".bash_profile", ".bashrc", ".cshrc", ".envrc",
      ".kshrc", ".login", ".profile", ".zlogin", ".zlogout", ".zprofile", ".zshenv", ".zshrc",
      "PKGBUILD", "gradlew"]
    extensions := [".sh", ".bash", ".bats", ".cgi", ".command", ".fcgi", ".ksh", ".sh.in",
      ".tmux", ".tool", ".zsh", ".zsh-theme"]
    interpreters := ["ash", "bash", "dash", "ksh", "mksh", "pdksh", "rc", "sh", "zsh"]
    aliases := ["sh", "shell-script", "bash", "zsh", "envrc"] },
  { name := "Smalltalk", category := .programming, color := .text "#596706"
    extensions := [".st", ".cs"]
    aliases := ["squeak"] },
  { name := "Swift", category := .programming, color := .text "#F05138"
    extensions := [".swift"] },
  { name := "TOML", category := .data, color := .text "#9c4221"
    filenames := ["Cargo.lock", "Gopkg.lock", "Pipfile", "pdm.lock", "poetry.lock", "uv.lock"]
    extensions := [".toml"] },
  { name := "TSQL", category := .programming, color := .text "#e38c00"
    extensions := [".sql"] },
  { name := "TSX", category := .programming, color := .text "#3178c6", group := .text "TypeScript"
    extensions := [".tsx"] },
  { name := "Tcsh", category := .programming, group := .text "Shell"
    extensions := [".tcsh", ".csh"]
    interpreters := ["tcsh", "csh"] },
  { name := "TeX", category := .markup, color := .text "#3D6117"
    extensions := [".tex", ".aux", ".bbx", ".cbx", ".cls", ".dtx", ".ins", ".lbx", ".ltx", ".sty",
      ".toc"]
    aliases := ["latex"] },
  { name := "Text", category := .prose
    filenames := ["CITATION", "CITATIONS", "COPYING", "COPYRIGHT.regex", "FONTLOG", "INSTALL",
      "INSTALL.mysql", "LICENSE", "LICENSE.mysql", "NEWS", "README.me", "README.mysql",
      "click.me", "delete.me", "keep.me", "package.mask", "read.me", "readme.1st", "test.me"]
    extensions := [".txt", ".fr", ".ncl", ".no"]
    aliases := ["fundamental", "plain text"] },
  { name := "TypeScript", category := .programming, color := .text "#3178c6"
    extensions := [".ts", ".cts", ".mts"]
    interpreters := ["deno", "ts-node", "tsx"]
    aliases := ["ts"] },
  { name := "V", category := .programming, color := .text "#4f87c4"
    extensions := [".v", ".vsh", ".vv"]
    aliases := ["vlang"] },
  { name := "Verilog", category := .programming, color := .text "#b2b7f8"
    extensions := [".v", ".veo"] },
  { name := "Vim Script", category := .programming, color := .text "#199f4b"
    filenames := [".exrc", ".gvimrc", ".nvimrc", ".vimrc", "_vimrc", "gvimrc", "nvimrc", "vimrc"]
    extensions := [".vim", ".vba", ".vimrc", ".vmb"]
    aliases := ["vim", "viml", "nvim", "vimscript"] },
  { name := "XML", category := .data, color := .text "#0060ac"
    filenames := [".classpath", ".cproject", ".project", "App.config", "NuGet.config",
      "Web.config", "packages.config"]
    extensions := [".xml", ".adml", ".admx", ".csproj", ".fsproj", ".plist", ".props", ".resx",
      ".rs", ".svg", ".targets", ".ts", ".vcxproj", ".xsd", ".xsl"]
    aliases := ["rss", "xsd", "wsdl"] },
  { name := "YAML", category := .data, color := .text "#cb171e"
    filenames := [".clang-format", ".clang-tidy", ".gemrc", "CITATION.cff", "glide.lock",
      "yarn.lock"]
    extensions := [".yml", ".mir", ".reek", ".rviz", ".sublime-syntax", ".syntax", ".yaml",
      ".yaml-tmlanguage"]
    aliases := ["yml"] },
  { name := "reStructuredText", category := .prose, color := .text "#141414"
    extensions := [".rst", ".rest", ".rest.txt", ".rst.txt"]
    aliases := ["rst"] }]

end Polyglot.Bundled

import Polyglot.Catalog
import Polyglot.Catalog.Bundled.Languages

namespace Polyglot.Bundled

def vendor : List String := [
  "(^|/)cache/",
  "^[Dd]ependencies/",
  "(^|/)dist/",
  "^deps/",
  "(^|/)configure$",
  "(^|/)config\\.guess$",
  "(^|/)config\\.sub$",
  "(^|/)aclocal\\.m4",
  "(^|/)libtool\\.m4",
  "(^|/)ltoptions\\.m4",
  "(^|/)ltsugar\\.m4",
  "(^|/)ltversion\\.m4",
  "(^|/)lt~obsolete\\.m4",
  "(^|/)dotnet-install\\.(ps1|sh)$",
  "(^|/)cpplint\\.py",
  "(^|/)node_modules/",
  "(^|/)\\.yarn/releases/",
  "(^|/)\\.yarn/plugins/",
  "(^|/)\\.yarn/sdks/",
  "(^|/)\\.yarn/versions/",
  "(^|/)\\.yarn/unplugged/",
  "(^|/)_esy$",
  "(^|/)bower_components/",
  "^rebar$",
  "(^|/)erlang\\.mk",
  "(^|/)Godeps/_workspace/",
  "(^|/)testdata/",
  "(^|/)\\.indent\\.pro",
  "(\\.|-)min\\.(js|css)$",
  "([^\\s]*)import\\.(css|less|scss|styl)$",
  "(^|/)bootstrap([^/.]*)(\\..*)?\\.(js|css|less|scss|styl)$",
  "(^|/)custom\\.bootstrap([^\\s]*)(js|css|less|scss|styl)$",
  "(^|/)font-?awesome\\.(css|less|scss|styl)$",
  "(^|/)font-?awesome/.*\\.(css|less|scss|styl)$",
  "(^|/)fontello(.*?)\\.css$",
  "(^|/)[Bb]ourbon/.*\\.(css|less|scss|styl)$",
  "(^|/)animate\\.(css|less|scss|styl)$",
  "(^|/)select2/.*\\.(css|scss|js)$",
  "(3rd|[Tt]hird)[-_]?[Pp]arty/",
  "(^|/)vendors?/",
  "(^|/)[Ee]xtern(als?)?/",
  "(^|/)[Vv]+endor/",
  "(^|/)jquery([^.]*)\\.js$",
  "(^|/)jquery\\-\\d\\.\\d+(\\.\\d+)?\\.js$",
  "(^|/)jquery\\-ui(\\-\\d\\.\\d+(\\.\\d+)?)?(\\.\\w+)?\\.(js|css)$",
  "(^|/)jquery\\.(ui|effects)\\.([^.]*)\\.(js|css)$",
  "(^|/)modernizr\\-\\d\\.\\d+(\\.\\d+)?\\.js$",
  "(^|/)modernizr\\.custom\\.\\d+\\.js$",
  "(^|/)prototype(.*)\\.js$",
  "(^|/)underscore(\\.min)?\\.js$",
  "(^|/)lodash(\\.min)?\\.js$",
  "(^|/)d3(\\.v\\d+)?([^.]*)\\.js$",
  "(^|/)react(-[^.]*)?\\.js$",
  "(^|/)gradlew(\\.bat)?$",
  "(^|/)gradle/wrapper/",
  "(^|/)mvnw(\\.cmd)?$",
  "(^|/)\\.mvn/wrapper/",
  "(^|/)\\.google_apis/",
  "\\.xctemplate/",
  "\\.imageset/",
  "(^|/)Carthage/",
  "(^|/)Pods/",
  "(^|/)Sparkle/",
  "(^|/)\\.vscode/"]

def generated : List String := [
  "Cargo\\.lock",
  "composer\\.lock",
  "Godeps\\/",
  "(^|\\/)\\.pnp\\..*$",
  "npm-shrinkwrap\\.json",
  "package-lock\\.json",
  "(Gopkg|glide)\\.lock",
  "poetry\\.lock",
  "pdm\\.lock",
  "(^|\\/)(\\w+\\.)?esy\\.lock$",
  "__generated__\\/",
  "(^|\\/)\\.(yarn|pnpm)\\.lock$",
  "vendor\\/((?!-)[-0-9A-Za-z]+(?<!-)\\.)+(com|edu|gov|in|me|net|org|fm|io)"]

def cppPatterns : List String := [
  "^\\s*#\\s*include <(cstdint|string|vector|map|list|array|bitset|queue|stack|forward_list|unordered_map|unordered_set|(i|o|io)stream)>",
  "^\\s*template\\s*<",
  "^[ \\t]*(try|constexpr)",
  "^[ \\t]*catch\\s*\\(",
  "^[ \\t]*(class|(using[ \\t]+)?namespace)\\s+\\w+",
  "^[ \\t]*(private|public|protected):$",
  "__has_cpp_attribute|__cplusplus >",
  "std::\\w+"]

def objectivecPatterns : List String := [
  "^\\s*(@(interface|class|protocol|property|end|synchronised|selector|implementation)\\b|#import\\s+.+\\.h[\">])"]

def perlPatterns : List String := [
  "\\buse\\s+(?:strict\\b|v?5\\b)",
  "^\\s*use\\s+(?:constant|overload)\\b",
  "^\\s*(?:\\*|(?:our\\s*)?@)EXPORT\\s*=",
  "^\\s*package\\s+[^\\W\\d]\\w*(?:::\\w+)*\\s*(?:[;\x7b]|\\sv?\\d)",
  "[\\s$][^\\W\\d]\\w*(?::\\w+)*->[a-zA-Z_\\[(\x7b]"]

def rakuPatterns : List String := [
  "^\\s*(?:use\\s+v6\\b|\\bmodule\\b|\\b(?:my\\s+)?class\\b)"]

def disambiguations : List Disambiguation := [
  { extensions := [".cs"],
    rules := [
      { language := "Smalltalk",
        patterns := ["![\\w\\s]+methodsFor: "] },
      { language := "C#",
        patterns := ["^\\s*(using\\s+[A-Z][\\s\\w.]+;|namespace\\s*[\\w\\.]+\\s*(\\\x7b|;)|\\/\\/)"] }] },
  { extensions := [".es"],
    rules := [
      { language := "Erlang",
        patterns := ["^\\s*(?:%%|main\\s*\\(.*?\\)\\s*->)"] },
      { language := "JavaScript",
        patterns := ["\\/\\/|(\"|')use strict\\1|export\\s+default\\s|\\/\\*(?:.|[\\r\\n])*?\\*\\/"] }] },
  { extensions := [".h"],
    rules := [
      { language := "Objective-C",
        patterns := objectivecPatterns },
      { language := "C++",
        patterns := cppPatterns },
      { language := "C" }] },
  { extensions := [".inc"],
    rules := [
      { language := "PHP",
        patterns := ["^<\\?(?:php)?"] },
      { language := "SQL",
        patterns := ["^\\s*(?i:select|insert|update|delete|create\\s+table)\\b"] },
      { language := "Pascal",
        patterns := ["(?i:^\\s*\\\x7b\\$(?:mode|ifdef|undef|define)[ ]+[a-z0-9_]+\\\x7d)|^\\s*end[.;]\\s*$"] }] },
  { extensions := [".m"],
    rules := [
      { language := "Objective-C",
        patterns := objectivecPatterns },
      { language := "Mercury",
        patterns := [":- module"] },
      { language := "M",
        patterns := ["^\\s*;"] },
      { language := "Mathematica",
        clauses := [
          { language := "Mathematica",
            patterns := ["\\(\\*"] },
          { language := "Mathematica",
            patterns := ["\\*\\)$"] }] },
      { language := "MATLAB",
        patterns := ["^\\s*%"] },
      { language := "Limbo",
        patterns := ["^\\w+\\s*:\\s*module\\s*\\\x7b"] }] },
  { extensions := [".md"],
    rules := [
      { language := "Markdown",
        patterns := [
          "(^[-A-Za-z0-9=#!\\*\\[|>])|<\\/",
          "\\A\\z"] },
      { language := "GCC Machine Description",
        patterns := ["^(;;|\\(define_)"] },
      { language := "Markdown" }] },
  { extensions := [".pl"],
    rules := [
      { language := "Prolog",
        patterns := ["^[^#]*:-"] },
      { language := "Perl",
        clauses := [
          { language := "Perl",
            negative := ["^\\s*use\\s+v6\\b"] },
          { language := "Perl",
            patterns := perlPatterns }] },
      { language := "Raku",
        patterns := rakuPatterns }] },
  { extensions := [".pm"],
    rules := [
      { language := "Perl",
        clauses := [
          { language := "Perl",
            negative := ["^\\s*use\\s+v6\\b"] },
          { language := "Perl",
            patterns := perlPatterns }] },
      { language := "Raku",
        patterns := rakuPatterns }] },
  { extensions := [".pro"],
    rules := [
      { language := "Prolog",
        patterns := ["^[^\\[#]+:-"] },
      { language := "INI",
        patterns := ["last_client="] },
      { language := "QMake",
        clauses := [
          { language := "QMake",
            patterns := ["HEADERS"] },
          { language := "QMake",
            patterns := ["SOURCES"] }] }] },
  { extensions := [".rs"],
    rules := [
      { language := "Rust",
        patterns := ["^(use |fn |mod |pub |macro_rules|impl|#!?\\[)"] },
      { language := "RenderScript",
        patterns := ["#include|#pragma\\s+(rs|version)|__attribute__"] },
      { language := "XML",
        patterns := ["^\\s*<\\?xml"] }] },
  { extensions := [".sql"],
    rules := [
      { language := "PLpgSQL",
        patterns := ["(?i:^\\\\i\\b|AS\\s+\\$\\$|LANGUAGE\\s+'?plpgsql'?|BEGIN(\\s+WORK)?\\s*;)"] },
      { language := "PLSQL",
        patterns := ["(?i:\\$\\$PLSQL_|XMLTYPE|systimestamp|\\.nextval|CONNECT\\s+BY|AUTHID\\s+(DEFINER|CURRENT_USER)|constructor\\W+function)"] },
      { language := "TSQL",
        patterns := ["(?i:^\\s*GO\\b|BEGIN(\\s+TRY|\\s+CATCH)|OUTPUT\\s+INSERTED|DECLARE\\s+@|\\[dbo\\])"] },
      { language := "SQL" }] },
  { extensions := [".t"],
    rules := [
      { language := "Perl",
        clauses := [
          { language := "Perl",
            negative := ["^\\s*use\\s+v6\\b"] },
          { language := "Perl",
            patterns := perlPatterns }] },
      { language := "Raku",
        patterns := ["^\\s*(?:use\\s+v6\\b|\\bmodule\\b|\\bmy\\s+class\\b)"] }] },
  { extensions := [".ts"],
    rules := [
      { language := "XML",
        patterns := ["<TS\\b"] },
      { language := "TypeScript" }] },
  { extensions := [".v"],
    rules := [
      { language := "Coq",
        patterns := ["(?:^|\\s)(?:Proof|Qed)\\.(?:$|\\s)|(?:^|\\s)Require[ \\t]+(Import|Export)\\s"] },
      { language := "Verilog",
        patterns := ["^[ \\t]*module\\s+[^\\s()]+\\s+\\#?\\(|^[ \\t]*`(?:define|ifdef|ifndef|include|timescale)|^[ \\t]*always[ \\t]*@|^[ \\t]*initial[ \\t]*(begin|@)"] },
      { language := "V",
        patterns := ["\\$(?:if|else)[ \\t]|^[ \\t]*fn\\s+[^\\s()]+\\(.*?\\).*?\\\x7b|^[ \\t]*for\\s*\\\x7b"] }] }]

end Polyglot.Bundled

namespace Polyglot.Catalog

def bundled : Catalog :=
  ofLanguages Bundled.languages (by decide +kernel) "bundled" Bundled.vendor Bundled.generated
    Bundled.disambiguations

end Polyglot.Catalog

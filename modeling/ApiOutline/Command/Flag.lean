/-
Flags.

What can be asked for on the command line: the name of each flag, whether a value goes with it,
and the text that explains them all, laid out for eighty columns.
-/
import ApiOutline.Settings

set_option autoImplicit false

namespace ApiOutline.Command

inductive Flag where
  | help
  | spec
  | output
  | moduleName
  | serviceName
  | host
  | schema
  | strictRefs
  | config
  | initConfig
  | verbose
  deriving DecidableEq, Repr

namespace Flag

/-- All names, in the order in which they are explained. -/
def names : List (String × Flag) :=
  [("-h", .help), ("--help", .help), ("--spec", .spec), ("--output", .output),
    ("--module-name", .moduleName), ("--service-name", .serviceName), ("--host", .host),
    ("--schema", .schema), ("--strict-refs", .strictRefs), ("--config", .config),
    ("--init-config", .initConfig), ("-v", .verbose), ("--verbose", .verbose)]

/-- Does a value go with a flag? The others are switches. -/
def takesValue : Flag → Bool
  | .spec | .output | .moduleName | .serviceName | .host | .schema | .config => true
  | .help | .strictRefs | .initConfig | .verbose => false

/-- All names of a flag, as faults tell them. -/
def label (f : Flag) : String :=
  "/".intercalate ((names.filter fun (_, g) => g == f).map Prod.fst)

/-- The flag of a whole name. -/
def ofName? (name : String) : Option Flag :=
  names.lookup name

/-- The switch of one letter. -/
def ofLetter? (c : Char) : Option Flag :=
  ofName? (String.ofList ['-', c])

end Flag

/-! ## Explanations -/

/-- The name of the program. -/
def programName : String := "swagger-decoder"

def usage : String :=
  "usage: swagger-decoder [-h] [--spec SPEC] [--output OUTPUT]\n" ++
  "                       [--module-name MODULE_NAME]\n" ++
  "                       [--service-name SERVICE_NAME] [--host HOST]\n" ++
  "                       [--schema SCHEMA] [--strict-refs] [--config CONFIG]\n" ++
  "                       [--init-config] [-v]\n"

def helpText : String :=
  usage ++ "\n" ++
  "Декодирование Swagger 1.x / 2.x спецификации для генерации клиента\n\n" ++
  "options:\n" ++
  "  -h, --help            show this help message and exit\n" ++
  "  --spec SPEC           Путь или URL к спецификации\n" ++
  "  --output OUTPUT       JSON файл для результата\n" ++
  "  --module-name MODULE_NAME\n" ++
  "                        Имя модуля клиента\n" ++
  "  --service-name SERVICE_NAME\n" ++
  "                        Имя сервиса для операций без тегов\n" ++
  "  --host HOST           Хост, если не указан в спецификации\n" ++
  "  --schema SCHEMA       Схема (http/https), если не указана в спецификации\n" ++
  "  --strict-refs         Ошибка при неразрешенных $ref вместо пропуска\n" ++
  "                        параметра\n" ++
  "  --config CONFIG       Путь к файлу конфигурации\n" ++
  "  --init-config         Создать конфиг файл " ++ Settings.defaultPath ++ "\n" ++
  "  -v, --verbose         Подробный лог\n"

end ApiOutline.Command

import Rechristen.Text.Affix

/-!
# Names of characters

A character can be told by its name, in capital or small letters.  The table holds the names of the
letters of the Latin, Greek and Cyrillic scripts, of the control characters, of punctuation,
currencies, arrows, mathematical and other symbols, and of emoji.  Names with the same first words
stand together behind these words.
-/

namespace Rechristen.Text

/-- First words of names, each with the words that may follow it.  Commas stand between these. -/
def characterNames : List (String × List String) :=
  [("", [
      "ABACUS,AC CURRENT,ACCOUNT OF,ACK,ACKNOWLEDGE,ACTIVATE ARABIC FORM SHAPING",
      "ACTIVATE SYMMETRIC SWAPPING,ACUTE ACCENT,ADDRESSED TO THE SUBJECT,ADI SHAKTI",
      "ADMISSION TICKETS,ADULT,AERIAL TRAMWAY,AIRPLANE,AIRPLANE ARRIVING,AIRPLANE DEPARTURE",
      "AKTIESELSKAB,ALARM CLOCK,ALEF SYMBOL,ALEMBIC,ALERT,ALIEN MONSTER,ALL AROUND-PROFILE",
      "ALL EQUAL TO,ALMOST EQUAL OR EQUAL TO,ALMOST EQUAL TO,ALTERNATE ONE-WAY LEFT WAY TRAFFIC",
      "ALTERNATIVE KEY SYMBOL,AMBULANCE,AMERICAN FOOTBALL,AMPERSAND,AMPHORA,ANCHOR,ANGER SYMBOL",
      "ANGLE,ANGRY FACE,ANGSTROM SIGN,ANGUISHED FACE,ANKH,ANT,ANTENNA WITH BARS,APC,APOSTROPHE",
      "APPLICATION PROGRAM COMMAND,APPROACHES THE LIMIT,APPROXIMATELY BUT NOT ACTUALLY EQUAL TO",
      "APPROXIMATELY EQUAL TO,APPROXIMATELY EQUAL TO OR THE IMAGE OF,AQUARIUS,ARC,ARIES",
      "ARTICULATED LORRY,ARTIST PALETTE,ASCENDING NODE,ASSERTION,ASTERISK,ASTERISK OPERATOR",
      "ASTERISM,ASTONISHED FACE,ASTRONOMICAL SYMBOL FOR URANUS,ASYMPTOTICALLY EQUAL TO",
      "ATHLETIC SHOE,ATOM SYMBOL,AUBERGINE,AUSTRAL SIGN,AUTO RICKSHAW,AUTOMATED TELLER MACHINE",
      "AUTOMOBILE,AVOCADO,BABY,BABY ANGEL,BABY BOTTLE,BABY CHICK,BABY SYMBOL,BACK OF ENVELOPE",
      "BACK WITH LEFTWARDS ARROW ABOVE,BACK-TILTED SHADOWED WHITE RIGHTWARDS ARROW,BACKSPACE",
      "BACON,BACTRIAN CAMEL,BADGER,BADMINTON RACQUET AND SHUTTLECOCK,BAGEL,BAGGAGE CLAIM",
      "BAGUETTE BREAD,BALL OF YARN,BALLOON,BALLOON-SPOKED ASTERISK,BALLOT BOLD SCRIPT X",
      "BALLOT BOX,BALLOT SCRIPT X,BALLOT X,BANANA,BANK,BAR CHART,BAR OF SOAP,BARBER POLE,BASEBALL",
      "BASKET,BASKETBALL AND HOOP,BAT,BATH,BATHTUB,BATTERY,BEACH WITH UMBRELLA",
      "BEAMED ASCENDING MUSICAL NOTES,BEAMED DESCENDING MUSICAL NOTES,BEAMED EIGHTH NOTES",
      "BEAMED SIXTEENTH NOTES,BEAR FACE,BEARDED PERSON,BEATING HEART,BEAVER,BECAUSE,BED,BEER MUG",
      "BEL,BELL,BELL SYMBOL,BELL WITH CANCELLATION STROKE,BELLHOP BELL,BENTO BOX,BENZENE RING",
      "BENZENE RING WITH CIRCLE,BET SYMBOL,BETWEEN,BEVERAGE BOX,BICYCLE,BICYCLIST,BIKINI",
      "BILLED CAP,BILLIARDS,BIOHAZARD SIGN,BIRD,BIRTHDAY CAKE,BISON,BITCOIN SIGN,BLANK SYMBOL",
      "BLOSSOM,BLOWFISH,BLUE BOOK,BLUE HEART,BOAR,BOM,BOMB,BONE,BOOK,BOOKMARK,BOOKMARK TABS,BOOKS",
      "BOTTLE WITH POPPING CORK,BOUQUET,BOUQUET OF FLOWERS,BOW AND ARROW,BOWL OF HYGIEIA",
      "BOWL WITH SPOON,BOWLING,BOWTIE,BOXING GLOVE,BOY,BOYS SYMBOL,BPH,BRAIN,BREAD",
      "BREAK PERMITTED HERE,BREAST-FEEDING,BRICK,BRIDE WITH VEIL,BRIDGE AT NIGHT,BRIEFCASE",
      "BROCCOLI,BROKEN BAR,BROKEN CIRCLE WITH NORTHWEST ARROW,BROKEN HEART,BROOM,BROWN HEART,BS",
      "BUBBLE TEA,BUG,BUILDING CONSTRUCTION,BULLET,BULLET OPERATOR,BULLHORN",
      "BULLHORN WITH SOUND WAVES,BULLSEYE,BURRITO,BUS,BUS STOP,BUST IN SILHOUETTE",
      "BUSTS IN SILHOUETTE,BUTTER,BUTTERFLY,BYTE ORDER MARK,CACTUS,CADA UNA,CADUCEUS,CALENDAR",
      "CALL ME HAND,CAMERA,CAMERA WITH FLASH,CAMPING,CAN,CANCEL,CANCEL CHARACTER,CANCELLATION X",
      "CANCER,CANDLE,CANDY,CANNED FOOD,CANOE,CAPRICORN,CAR SLIDING,CARD FILE BOX,CARD INDEX",
      "CARD INDEX DIVIDERS,CARE OF,CARET,CARET INSERTION POINT,CAROUSEL HORSE,CARP STREAMER",
      "CARRIAGE RETURN,CARROT,CASTLE,CAT,CAT FACE,CAT FACE WITH TEARS OF JOY",
      "CAT FACE WITH WRY SMILE,CAUTION SIGN,CCH,CEDI SIGN,CEDILLA,CELTIC CROSS,CENT SIGN",
      "CENTRE LINE SYMBOL,CERES,CGJ,CHAINS,CHARACTER TABULATION,CHARACTER TABULATION SET",
      "CHARACTER TABULATION WITH JUSTIFICATION,CHARACTER TIE,CHART WITH DOWNWARDS TREND",
      "CHART WITH UPWARDS TREND,CHART WITH UPWARDS TREND AND YEN SIGN,CHECK MARK",
      "CHEERING MEGAPHONE,CHEESE WEDGE,CHEQUERED FLAG,CHERRIES,CHERRY BLOSSOM,CHESTNUT,CHI RHO",
      "CHICKEN,CHILD,CHILDREN CROSSING,CHIPMUNK,CHIRON,CHOCOLATE BAR,CHOPSTICKS,CHRISTMAS TREE",
      "CHURCH,CINEMA,CIRCUMFLEX ACCENT,CIRCUS TENT,CITYSCAPE,CITYSCAPE AT DUSK",
      "CLAMSHELL MOBILE PHONE,CLAPPER BOARD,CLAPPING HANDS SIGN,CLASSICAL BUILDING",
      "CLEAR SCREEN SYMBOL,CLINKING BEER MUGS,CLINKING GLASSES,CLIPBOARD,CLOSE UP,CLOSED BOOK",
      "CLOSED LOCK WITH KEY,CLOSED MAILBOX WITH LOWERED FLAG,CLOSED MAILBOX WITH RAISED FLAG",
      "CLOSED UMBRELLA,CLOUD,CLOWN FACE,COAT,COCKTAIL GLASS,COCONUT,COFFIN,COLLISION SYMBOL,COLON",
      "COLON EQUALS,COLON SIGN,COMET,COMMA,COMMERCIAL AT,COMMERCIAL MINUS SIGN,COMPASS,COMPLEMENT",
      "COMPOSITION SYMBOL,COMPRESSION,CONFETTI BALL,CONFOUNDED FACE,CONFUSED FACE,CONICAL TAPER",
      "CONJUNCTION,CONSTRUCTION SIGN,CONSTRUCTION WORKER,CONTINUOUS UNDERLINE SYMBOL",
      "CONTOUR INTEGRAL,CONTROL KNOBS,CONTROL SEQUENCE INTRODUCER,CONVENIENCE STORE,COOKED RICE",
      "COOKIE,COOKING,COPYRIGHT SIGN,CORRESPONDS TO,COUCH AND LAMP,COUNTERBORE,COUNTERSINK",
      "COUPLE WITH HEART,COW,COW FACE,CR,CRAB,CREDIT CARD,CRESCENT MOON,CRICKET",
      "CRICKET BAT AND BALL,CROCODILE,CROISSANT,CROSS MARK,CROSS OF JERUSALEM,CROSS OF LORRAINE",
      "CROSS POMMEE,CROSS POMMEE WITH HALF-CIRCLE BELOW,CROSSED FLAGS,CROSSED SWORDS",
      "CROSSING LANES,CROWN,CRUZEIRO SIGN,CRYING CAT FACE,CRYING FACE,CRYSTAL BALL,CSI,CUBE ROOT",
      "CUCUMBER,CUP ON BLACK SQUARE,CUP WITH STRAW,CUPCAKE,CURLING STONE,CURLY BRACKET EXTENSION",
      "CURLY LOGICAL AND,CURLY LOGICAL OR,CURLY LOOP,CURRENCY EXCHANGE,CURRENCY SIGN",
      "CURRY AND RICE,CURVED STEM PARAGRAPH SIGN ORNAMENT,CUSTARD,CUSTOMS,CUT OF MEAT,CYCLONE",
      "CYLINDRICITY,DAGGER,DAGGER KNIFE,DALET SYMBOL,DANCER,DANGO,DARK SHADE,DARK SUNGLASSES",
      "DASH SYMBOL,DASHED TRIANGLE-HEADED RIGHTWARDS ARROW,DATA LINK ESCAPE,DC1,DC2,DC3,DC4,DCS",
      "DEAF PERSON,DECIDUOUS TREE,DECIMAL EXPONENT SYMBOL,DECIMAL SEPARATOR KEY SYMBOL",
      "DECREASE FONT SIZE SYMBOL,DEER,DEGREE CELSIUS,DEGREE FAHRENHEIT,DEGREE SIGN,DEL,DELETE",
      "DELIVERY TRUCK,DELTA EQUAL TO,DEPARTMENT STORE,DERELICT HOUSE BUILDING,DESCENDING NODE",
      "DESERT,DESERT ISLAND,DESKTOP COMPUTER,DESKTOP WINDOW,DIAERESIS,DIAMETER SIGN",
      "DIAMOND OPERATOR,DIAMOND SHAPE WITH A DOT INSIDE,DIE FACE-1,DIE FACE-2,DIE FACE-3",
      "DIE FACE-4,DIE FACE-5,DIE FACE-6,DIESEL LOCOMOTIVE,DIFFERENCE BETWEEN,DIMENSION ORIGIN",
      "DINGBAT CIRCLED SANS-SERIF NUMBER TEN,DIRECT CURRENT SYMBOL FORM TWO,DIRECT HIT",
      "DISABLED CAR,DISAPPOINTED BUT RELIEVED FACE,DISAPPOINTED FACE",
      "DISCONTINUOUS UNDERLINE SYMBOL,DISGUISED FACE,DIVIDES,DIVING MASK,DIVISION SIGN",
      "DIVISION SLASH,DIVISION TIMES,DIVORCE SYMBOL,DIZZY FACE,DIZZY SYMBOL,DLE,DNA DOUBLE HELIX",
      "DO NOT LITTER SYMBOL,DOCUMENT,DOCUMENT WITH PICTURE,DOCUMENT WITH TEXT",
      "DOCUMENT WITH TEXT AND PICTURE,DODO,DOG,DOG FACE,DOLLAR SIGN,DOLPHIN,DONG SIGN,DOOR",
      "DOT MINUS,DOT OPERATOR,DOT PLUS,DOTTED CIRCLE,DOTTED CROSS,DOUBLED FEMALE SIGN",
      "DOUBLED MALE SIGN,DOUGHNUT,DOVE OF PEACE,DOWN ARROWHEAD,DOWN RIGHT DIAGONAL ELLIPSIS",
      "DOWN TACK,DOWN-POINTING RED TRIANGLE,DOWN-POINTING SMALL RED TRIANGLE,DRACHMA SIGN",
      "DRAFTING POINT RIGHTWARDS ARROW,DRAGON,DRAGON FACE,DRESS,DRIVE SLOW SIGN,DROMEDARY CAMEL",
      "DROOLING FACE,DROPLET,DRUM WITH DRUMSTICKS,DUCK,DUMPLING,DVD,E-MAIL SYMBOL,EAGLE,EAR",
      "EAR OF MAIZE,EAR OF RICE,EAR WITH HEARING AID,EARTH,EARTH GLOBE AMERICAS",
      "EARTH GLOBE ASIA-AUSTRALIA,EARTH GLOBE EUROPE-AFRICA,EARTH GROUND,EAST SYRIAC CROSS,EGG",
      "EIGHT PETALLED OUTLINED BLACK FLORETTE,EIGHT POINTED BLACK STAR",
      "EIGHT POINTED PINWHEEL STAR,EIGHT POINTED RECTILINEAR BLACK STAR,EIGHT SPOKED ASTERISK",
      "EIGHT TEARDROP-SPOKED PROPELLER ASTERISK,EIGHTH NOTE,EJECT SYMBOL,ELECTRIC ARROW",
      "ELECTRIC LIGHT BULB,ELECTRIC PLUG,ELECTRIC TORCH,ELECTRICAL INTERSECTION,ELEMENT OF",
      "ELEPHANT,ELEVATOR,ELF,EM DASH,EM QUAD,EM SPACE,EMPHASIS SYMBOL,EN DASH,EN QUAD,EN SPACE",
      "END WITH LEFTWARDS ARROW ABOVE,ENQ,ENQUIRY,ENTER SYMBOL,ENVELOPE",
      "ENVELOPE WITH DOWNWARDS ARROW ABOVE,ENVELOPE WITH LIGHTNING,EOL,EOM,EOT,EPA",
      "EQUAL AND PARALLEL TO,EQUAL TO BY DEFINITION,EQUALS COLON,EQUALS SIGN,EQUIANGULAR TO",
      "EQUIVALENT TO,ERASE TO THE LEFT,ERASE TO THE RIGHT,ESA,ESC,ESCAPE,ESTIMATED SYMBOL",
      "ESTIMATES,ETB,ETX,EULER CONSTANT,EURO SIGN,EURO-CURRENCY SIGN,EUROPEAN CASTLE",
      "EUROPEAN POST OFFICE,EVERGREEN TREE,EXCESS,EXCLAMATION MARK,EXCLAMATION QUESTION MARK",
      "EXPRESSIONLESS FACE,EXTRATERRESTRIAL ALIEN,EYE,EYEGLASSES,EYES,FACE HOLDING BACK TEARS",
      "FACE MASSAGE,FACE PALM,FACE SAVOURING DELICIOUS FOOD,FACE SCREAMING IN FEAR",
      "FACE THROWING A KISS,FACE WITHOUT MOUTH,FACSIMILE SIGN,FACTORY,FAIRY,FALAFEL,FALLEN LEAF",
      "FALLING DIAGONAL IN WHITE CIRCLE IN BLACK SQUARE,FAMILY,FARSI SYMBOL,FATHER CHRISTMAS",
      "FAX ICON,FAX MACHINE,FEARFUL FACE,FEMALE SIGN,FEMININE ORDINAL INDICATOR,FENCER",
      "FERRIS WHEEL,FERRY,FF,FIELD HOCKEY STICK AND BALL,FIGURE DASH,FIGURE SPACE,FILE CABINET",
      "FILE FOLDER,FILE SEPARATOR,FILM FRAMES,FILM PROJECTOR,FIRE,FIRE ENGINE,FIRE EXTINGUISHER",
      "FIRECRACKER,FIREWORK SPARKLER,FIREWORKS,FIRST PLACE MEDAL,FIRST QUARTER MOON",
      "FIRST QUARTER MOON SYMBOL,FIRST QUARTER MOON WITH FACE,FIRST STRONG ISOLATE,FISH",
      "FISH CAKE WITH SWIRL DESIGN,FISHEYE,FISHING POLE AND FISH,FISTED HAND SIGN",
      "FIVE DOT PUNCTUATION,FLAG IN HOLE,FLAMINGO,FLAT SHOE,FLATNESS,FLEUR-DE-LIS,FLEXED BICEPS",
      "FLOPPY DISK,FLORAL HEART,FLOWER,FLOWER PLAYING CARDS,FLOWER PUNCTUATION MARK,FLUSHED FACE",
      "FLYING DISC,FLYING ENVELOPE,FLYING SAUCER,FOG,FOGGY,FOLDER,FOOT,FOOTPRINTS,FOR ALL,FORCES",
      "FORK AND KNIFE,FORK AND KNIFE WITH PLATE,FORM FEED,FORTUNE COOKIE,FOUNTAIN",
      "FOUR BALLOON-SPOKED ASTERISK,FOUR CLUB-SPOKED ASTERISK,FOUR DOT MARK,FOUR DOT PUNCTUATION",
      "FOUR LEAF CLOVER,FOUR TEARDROP-SPOKED ASTERISK,FOUR-PER-EM SPACE,FOURTH ROOT,FOX FACE",
      "FRACTION NUMERATOR ONE,FRACTION SLASH,FRAME WITH AN X,FRAME WITH PICTURE,FRAME WITH TILES",
      "FREEZING FACE,FRENCH FRANC SIGN,FRENCH FRIES,FRIED SHRIMP,FROG FACE",
      "FRONT-FACING BABY CHICK,FRONT-TILTED SHADOWED WHITE RIGHTWARDS ARROW,FROWN",
      "FROWNING FACE WITH OPEN MOUTH,FS,FSI,FUEL PUMP,FULL BLOCK,FULL MOON SYMBOL",
      "FULL MOON WITH FACE,FULL STOP,FUNCTION APPLICATION,FUNERAL URN,FUSE,GAME DIE,GARLIC,GEAR",
      "GEAR WITH HANDLES,GEAR WITHOUT HUB,GEM STONE,GEMINI,GENIE,GEOMETRIC PROPORTION",
      "GEOMETRICALLY EQUAL TO,GEOMETRICALLY EQUIVALENT TO,GERMAN PENNY SIGN,GHOST,GIMEL SYMBOL",
      "GIRAFFE FACE,GIRL,GIRLS SYMBOL,GLASS OF MILK,GLOBE WITH MERIDIANS,GLOVES,GLOWING STAR",
      "GOAL NET,GOAT,GOGGLES,GOLFER,GORILLA,GRADUATION CAP,GRAPES,GRAVE ACCENT,GREEN APPLE",
      "GREEN BOOK,GREEN HEART,GREEN SALAD,GRIMACING FACE,GRINNING CAT FACE WITH SMILING EYES",
      "GRINNING FACE,GROUP SEPARATOR,GROWING HEART,GS,GUARANI SIGN,GUARDSMAN,GUIDE DOG,GUITAR",
      "HAIR SPACE,HAIRCUT,HAMBURGER,HAMMER,HAMMER AND PICK,HAMMER AND SICKLE,HAMMER AND WRENCH",
      "HAMSTER FACE,HAND WITH INDEX AND MIDDLE FINGERS CROSSED,HANDBAG,HANDBALL,HANDSHAKE",
      "HAPPY PERSON RAISING ONE HAND,HARD DISK,HATCHING CHICK,HEADPHONE",
      "HEADSTONE GRAVEYARD SYMBOL,HEAR-NO-EVIL MONKEY,HEART DECORATION,HEART WITH ARROW",
      "HEART WITH RIBBON,HEART WITH TIP ON THE LEFT,HEDGEHOG,HELICOPTER,HELM SYMBOL",
      "HELMET WITH WHITE CROSS,HERB,HERMITIAN CONJUGATE MATRIX,HIBISCUS,HIGH BRIGHTNESS SYMBOL",
      "HIGH OCTET PRESET,HIGH VOLTAGE SIGN,HIGH-HEELED SHOE,HIGH-SPEED TRAIN",
      "HIGH-SPEED TRAIN WITH BULLET NOSE,HIKING BOOT,HINDU TEMPLE,HIPPOPOTAMUS,HISTORIC SITE",
      "HOCHO,HOLE,HOMOTHETIC,HONEY POT,HONEYBEE,HOP,HORSE,HORSE FACE,HORSE RACING,HOSPITAL",
      "HOT BEVERAGE,HOT DOG,HOT PEPPER,HOT SPRINGS,HOTEL,HOURGLASS,HOURGLASS WITH FLOWING SAND",
      "HOUSE,HOUSE BUILDING,HOUSE BUILDINGS,HOUSE WITH GARDEN,HRYVNIA SIGN,HT,HTJ,HTS",
      "HUGGING FACE,HUNDRED POINTS SYMBOL,HUSHED FACE,HUT,HYPHEN,HYPHEN BULLET,HYPHEN-MINUS",
      "HYPHENATION POINT,HYSTERESIS SYMBOL,I LOVE YOU HAND SIGN,ICE CREAM,ICE CUBE",
      "ICE HOCKEY STICK AND PUCK,ICE SKATE,IDENTICAL TO,IMAGE OF",
      "IMAGE OF OR APPROXIMATELY EQUAL TO,IMP,INBOX TRAY,INCOMING ENVELOPE",
      "INCREASE FONT SIZE SYMBOL,INCREMENT,IND,INDEX,INDIAN RUPEE SIGN,INFINITY",
      "INFORMATION DESK PERSON,INFORMATION SOURCE,INHIBIT ARABIC FORM SHAPING",
      "INHIBIT SYMMETRIC SWAPPING,INSERTION SYMBOL,INTEGRAL,INTEGRAL EXTENSION,INTERCALATE",
      "INTERLOCKED FEMALE AND MALE SIGN,INTERROBANG,INTERSECTION,INVERSE BULLET",
      "INVERSE WHITE CIRCLE,INVISIBLE PLUS,INVISIBLE SEPARATOR,INVISIBLE TIMES,IZAKAYA LANTERN",
      "JACK-O-LANTERN,JEANS,JIGSAW PUZZLE PIECE,JOYSTICK,JUGGLING,JUNO,JUPITER,KAABA,KANGAROO",
      "KELVIN SIGN,KEY,KEYBOARD,KEYBOARD AND MOUSE,KEYCAP TEN,KIMONO,KIP SIGN,KISS,KISS MARK",
      "KISSING CAT FACE WITH CLOSED EYES,KISSING FACE,KISSING FACE WITH CLOSED EYES",
      "KISSING FACE WITH SMILING EYES,KIWIFRUIT,KNEELING PERSON,KOALA,L B BAR SYMBOL,LAB COAT",
      "LABEL,LACROSSE STICK AND BALL,LADY BEETLE,LARGE BLUE CIRCLE,LARGE BLUE DIAMOND",
      "LARGE CIRCLE,LARGE ORANGE DIAMOND,LARGE RED CIRCLE,LARI SIGN,LAST QUARTER MOON",
      "LAST QUARTER MOON SYMBOL,LAST QUARTER MOON WITH FACE,LATIN CAPITAL LIGATURE IJ",
      "LATIN CAPITAL LIGATURE OE,LATIN CROSS,LATIN SMALL LIGATURE IJ,LATIN SMALL LIGATURE OE",
      "LEAF FLUTTERING IN WIND,LEAFY GREEN,LEDGER,LEFT-FACING FIST",
      "LEFT-HANDED INTERLACED PENTAGRAM,LEFT-POINTING ANGLE BRACKET",
      "LEFT-POINTING DOUBLE ANGLE QUOTATION MARK,LEFT-POINTING MAGNIFYING GLASS",
      "LEFT-SHADED WHITE RIGHTWARDS ARROW,LEG,LEMON,LEO,LEOPARD,LEVEL SLIDER,LF,LIBRA",
      "LIGHT CHECK MARK,LIGHT LEFT TORTOISE SHELL BRACKET ORNAMENT,LIGHT RAIL",
      "LIGHT RIGHT TORTOISE SHELL BRACKET ORNAMENT,LIGHT SHADE,LIGHT VERTICAL BAR,LIGHTNING",
      "LIGHTNING MOOD,LIGHTNING MOOD BUBBLE,LINE FEED,LINE SEPARATOR,LINE TABULATION",
      "LINE TABULATION SET,LINK SYMBOL,LINKED PAPERCLIPS,LION FACE,LIPS,LIPSTICK,LIRA SIGN",
      "LIVRE TOURNOIS SIGN,LIZARD,LLAMA,LOBSTER,LOCK,LOCK WITH INK PEN,LOCKING-SHIFT ONE",
      "LOCKING-SHIFT ZERO,LOGICAL AND,LOGICAL OR,LOLLIPOP,LOTION BOTTLE,LOUDLY CRYING FACE",
      "LOVE HOTEL,LOVE LETTER,LOW ASTERISK,LOW BRIGHTNESS SYMBOL,LOW LINE,LOZENGE,LRE,LRI,LRM,LRO",
      "LUGGAGE,LYING FACE,MACRON,MAGE,MAGNET,MALE AND FEMALE SIGN,MALE SIGN",
      "MALE WITH STROKE AND MALE AND FEMALE SIGN,MALE WITH STROKE SIGN,MALTESE CROSS,MAMMOTH,MAN",
      "MAN AND WOMAN HOLDING HANDS,MAN DANCING,MAN IN BUSINESS SUIT LEVITATING,MAN IN TUXEDO",
      "MAN WITH GUA PI MAO,MAN WITH TURBAN,MANAT SIGN,MANGO,MANS SHOE,MANTELPIECE CLOCK",
      "MANUAL WHEELCHAIR,MAP SYMBOL FOR LIGHTHOUSE,MAPLE LEAF,MARRIAGE SYMBOL",
      "MARTIAL ARTS UNIFORM,MASCULINE ORDINAL INDICATOR,MATE DRINK,MAXIMIZE,MEASURED ANGLE",
      "MEASURED BY,MEAT ON BONE,MECHANICAL ARM,MECHANICAL LEG,MELON,MEMO",
      "MENORAH WITH NINE BRANCHES,MENS SYMBOL,MERCURY,MERPERSON,MESSAGE WAITING,METRO",
      "MICR DASH SYMBOL,MICR ON US SYMBOL,MICRO SIGN,MICROBE,MICROPHONE,MICROSCOPE,MIDDLE DOT",
      "MIDLINE HORIZONTAL ELLIPSIS,MILITARY MEDAL,MILKY WAY,MILL SIGN,MINIBUS,MINIDISC,MINIMIZE",
      "MINUS SIGN,MINUS TILDE,MINUS-OR-PLUS SIGN,MMSP,MOBILE PHONE,MOBILE PHONE OFF",
      "MOBILE PHONE WITH RIGHTWARDS ARROW AT LEFT,MODELS,MODERN PENTATHLON,MONEY BAG",
      "MONEY WITH WINGS,MONEY-MOUTH FACE,MONKEY,MONKEY FACE,MONOGRAM FOR YANG,MONOGRAM FOR YIN",
      "MONORAIL,MONOSTABLE SYMBOL,MOOD BUBBLE,MOON CAKE,MOON VIEWING CEREMONY,MOSQUE,MOSQUITO",
      "MOTHER CHRISTMAS,MOTOR BOAT,MOTOR SCOOTER,MOTORIZED WHEELCHAIR,MOTORWAY,MOUNT FUJI",
      "MOUNTAIN,MOUNTAIN BICYCLIST,MOUNTAIN CABLEWAY,MOUNTAIN RAILWAY,MOUSE,MOUSE FACE,MOUTH",
      "MOVIE CAMERA,MOYAI,MUCH GREATER-THAN,MUCH LESS-THAN,MULTIMAP,MULTIPLE MUSICAL NOTES",
      "MULTIPLICATION SIGN,MULTIPLICATION X,MULTISET,MULTISET MULTIPLICATION,MULTISET UNION",
      "MUSHROOM,MUSIC FLAT SIGN,MUSIC NATURAL SIGN,MUSIC SHARP SIGN,MUSICAL KEYBOARD",
      "MUSICAL KEYBOARD WITH JACKS,MUSICAL NOTE,MUSICAL SCORE,MW,NABLA,NAIL POLISH,NAIRA SIGN,NAK",
      "NAME BADGE,NAND,NARROW NO-BREAK SPACE,NATIONAL DIGIT SHAPES,NATIONAL PARK,NAUSEATED FACE",
      "NAZAR AMULET,NBH,NBSP,NECKTIE,NEGATED DOUBLE VERTICAL BAR DOUBLE RIGHT TURNSTILE",
      "NEGATIVE ACKNOWLEDGE,NEGATIVE CIRCLED DIGIT ZERO,NEGATIVE SQUARED CROSS MARK,NEL,NEPTUNE",
      "NERD FACE,NEUTER,NEUTRAL FACE,NEW LINE,NEW MOON SYMBOL,NEW MOON WITH FACE,NEW SHEQEL SIGN",
      "NEWSPAPER,NEXT LINE,NEXT PAGE,NIGHT WITH STARS,NINJA,NL,NNBSP,NO BICYCLES,NO BREAK HERE",
      "NO ENTRY,NO ENTRY SIGN,NO MOBILE PHONES,NO ONE UNDER EIGHTEEN SYMBOL,NO PEDESTRIANS",
      "NO PIRACY,NO SMOKING SYMBOL,NO-BREAK SPACE,NOMINAL DIGIT SHAPES,NON-BREAKING HYPHEN",
      "NON-POTABLE WATER SYMBOL,NOR,NORDIC MARK SIGN,NORMAL SUBGROUP OF",
      "NORMAL SUBGROUP OF OR EQUAL TO,NORTH EAST ARROW,NORTH EAST DOUBLE ARROW",
      "NORTHEAST-POINTING AIRPLANE,NOSE,NOTCHED LEFT SEMICIRCLE WITH THREE DOTS",
      "NOTCHED LOWER RIGHT-SHADOWED WHITE RIGHTWARDS ARROW",
      "NOTCHED RIGHT SEMICIRCLE WITH THREE DOTS",
      "NOTCHED UPPER RIGHT-SHADOWED WHITE RIGHTWARDS ARROW,NOTE,NOTE PAD,NOTE PAGE,NOTEBOOK",
      "NOTEBOOK WITH DECORATIVE COVER,NUL,NULL,NUMERO SIGN,NUT AND BOLT,OBSERVER EYE SYMBOL",
      "OCTAGONAL SIGN,OCTOPUS,ODEN,OFFICE BUILDING,OHM SIGN,OIL DRUM,OK HAND SIGN,OLD KEY",
      "OLD PERSONAL COMPUTER,OLDER ADULT,OLDER MAN,OLDER WOMAN,OM SYMBOL",
      "ON WITH EXCLAMATION MARK WITH LEFT RIGHT ARROW ABOVE,ONE BUTTON MOUSE,ONE DOT LEADER,ONION",
      "OPEN-CIRCUIT-OUTPUT H-TYPE SYMBOL,OPEN-CIRCUIT-OUTPUT L-TYPE SYMBOL",
      "OPEN-OUTLINED RIGHTWARDS ARROW,OPERATING SYSTEM COMMAND,OPHIUCHUS,OPPOSITION,OPTICAL DISC",
      "OPTICAL DISC ICON,OPTION KEY,ORANGE BOOK,ORANGE HEART,ORANGUTAN,ORIGINAL OF,ORTHODOX CROSS",
      "OSC,OTTER,OUNCE SIGN,OUTBOX TRAY,OUTLINED BLACK STAR,OUTLINED GREEK CROSS",
      "OUTLINED LATIN CROSS,OUTLINED WHITE STAR,OVERHEATED FACE,OVERLAP,OVERLINE,OWL,OX,OYSTER",
      "PACKAGE,PAD,PADDING CHARACTER,PAGE,PAGE FACING UP,PAGE WITH CIRCLED TEXT,PAGE WITH CURL",
      "PAGER,PAGES,PAGODA,PALLAS,PALM TREE,PALMS UP TOGETHER,PANCAKES,PANDA FACE,PAPERCLIP",
      "PARAGRAPH SEPARATOR,PARALLEL TO,PARROT,PARTIAL DIFFERENTIAL",
      "PARTIALLY-RECYCLED PAPER SYMBOL,PARTY POPPER,PASSENGER SHIP",
      "PASSIVE-PULL-DOWN-OUTPUT SYMBOL,PASSIVE-PULL-UP-OUTPUT SYMBOL,PASSPORT CONTROL,PAW PRINTS",
      "PDF,PDI,PEACE SYMBOL,PEACH,PEACOCK,PEANUTS,PEAR,PEDESTRIAN,PEN OVER STAMPED ENVELOPE",
      "PENCIL,PENGUIN,PENSIVE FACE,PENTAGRAM,PER MILLE SIGN,PER SIGN,PER TEN THOUSAND SIGN",
      "PERCENT SIGN,PERFORMING ARTS,PERMANENT PAPER SIGN,PERSEVERING FACE,PERSONAL COMPUTER",
      "PERSPECTIVE,PESETA SIGN,PESO SIGN,PETRI DISH,PICK,PICKUP TRUCK,PIE,PIG,PIG FACE,PIG NOSE",
      "PILCROW SIGN,PILE OF POO,PILL,PINCHED FINGERS,PINCHING HAND,PINE DECORATION,PINEAPPLE",
      "PINWHEEL STAR,PISCES,PISTOL,PITCHFORK,PLACE OF INTEREST SIGN,PLACE OF WORSHIP",
      "PLANCK CONSTANT,PLANCK CONSTANT OVER TWO PI,PLAYGROUND SLIDE,PLD,PLU,PLUS SIGN",
      "PLUS-MINUS SIGN,PLUTO,PM,POCKET CALCULATOR,POLICE CAR,POLICE CARS REVOLVING LIGHT",
      "POLICE OFFICER,POODLE,POP DIRECTIONAL FORMATTING,POP DIRECTIONAL ISOLATE,POPCORN",
      "PORTABLE STEREO,POSITION INDICATOR,POSTAL HORN,POSTBOX,POT OF FOOD,POTABLE WATER SYMBOL",
      "POTATO,POUCH,POULTRY LEG,POUND SIGN,POUTING CAT FACE,POUTING FACE,POWER ON SYMBOL",
      "POWER ON-OFF SYMBOL,POWER SLEEP SYMBOL,POWER SYMBOL,PRAYER BEADS,PRECEDES",
      "PRECEDES BUT NOT EQUIVALENT TO,PRECEDES OR EQUAL TO,PRECEDES OR EQUIVALENT TO",
      "PRECEDES UNDER RELATION,PREGNANT WOMAN,PRESCRIPTION TAKE,PRETZEL,PREVIOUS PAGE,PRIME",
      "PRINCE,PRINCESS,PRINT SCREEN SYMBOL,PRINTER,PRINTER ICON,PRIVACY MESSAGE,PRIVATE USE ONE",
      "PRIVATE USE TWO,PRIVATE USE-1,PRIVATE USE-2,PROBING CANE,PROHIBITED SIGN,PROJECTIVE",
      "PROPERTY LINE,PROPORTION,PROPORTIONAL TO,PU1,PU2,PUBLIC ADDRESS LOUDSPEAKER",
      "PUNCTUATION SPACE,PURPLE HEART,PURSE,PUSHPIN,PUT LITTER IN ITS PLACE SYMBOL",
      "QUADRANT LOWER LEFT,QUADRANT LOWER RIGHT,QUADRUPLE PRIME,QUARTER NOTE",
      "QUESTION EXCLAMATION MARK,QUESTION MARK,QUESTIONED EQUAL TO,QUINCUNX,QUOTATION MARK,RABBIT",
      "RABBIT FACE,RACCOON,RACING CAR,RACING MOTORCYCLE,RADICAL SYMBOL BOTTOM,RADIO,RADIO BUTTON",
      "RADIOACTIVE SIGN,RAILWAY CAR,RAILWAY TRACK,RAIN,RAINBOW,RAISED BACK OF HAND,RAISED FIST",
      "RAISED HAND,RAISED HAND WITH FINGERS SPLAYED",
      "RAISED HAND WITH PART BETWEEN MIDDLE AND RING FINGERS,RAM,RAT,RATIO,RECEIPT",
      "RECORD SEPARATOR,RECREATIONAL VEHICLE,RECYCLED PAPER SYMBOL,RED APPLE,RED GIFT ENVELOPE",
      "REFERENCE MARK,REGISTERED SIGN,RELIEVED FACE,REMINDER RIBBON,RESPONSE",
      "RESTRICTED LEFT ENTRY-1,RESTRICTED LEFT ENTRY-2,RESTROOM,RETURN SYMBOL,REVERSE INDEX",
      "REVERSE LINE FEED,REVERSE SOLIDUS,REVOLVING HEARTS,RHINOCEROS,RI,RIBBON,RICE BALL",
      "RICE CRACKER,RIFLE,RIGHT-FACING FIST,RIGHT-HANDED INTERLACED PENTAGRAM",
      "RIGHT-SHADED WHITE RIGHTWARDS ARROW,RING,RING BUOY,RING EQUAL TO,RING IN EQUAL TO",
      "RING OPERATOR,RINGING BELL,RLE,RLI,RLM,RLO,ROASTED SWEET POTATO,ROBOT FACE,ROCKET",
      "ROLL OF PAPER,ROLLED-UP NEWSPAPER,ROLLER COASTER,ROLLER SKATE",
      "ROLLING ON THE FLOOR LAUGHING,ROOSTER,ROSE,ROSETTE,ROTATED CAPITAL Q",
      "ROTATED FLORAL HEART BULLET,ROTATED HEAVY BLACK HEART BULLET,ROUND PUSHPIN,ROWBOAT,RS",
      "RUBLE SIGN,RUGBY FOOTBALL,RUNNER,RUNNING SHIRT WITH SASH,RUPEE SIGN,SAFETY PIN,SAFETY VEST",
      "SAGITTARIUS,SAILBOAT,SAKE BOTTLE AND CUP,SALT SHAKER,SALTIRE,SANDWICH,SARI,SATELLITE",
      "SATELLITE ANTENNA,SATURN,SAUROPOD,SAXOPHONE,SCALES,SCARF,SCHOOL,SCHOOL SATCHEL,SCI,SCOOTER",
      "SCORPION,SCORPIUS,SCREEN,SCROLL,SCRUPLE,SEAL,SEAT,SECOND PLACE MEDAL,SECTION SIGN,SECTOR",
      "SEE-NO-EVIL MONKEY,SEEDLING,SEGMENT,SELFIE,SEMICOLON,SEMISEXTILE",
      "SERIOUS FACE WITH SYMBOLS COVERING MOUTH,SERVICE MARK,SESQUIQUADRATE,SET MINUS",
      "SET TRANSMIT STATE,SEXTILE,SGC,SHALLOW PAN OF FOOD,SHAMROCK,SHARK,SHAVED ICE,SHEEP,SHIELD",
      "SHIFT IN,SHIFT OUT,SHINTO SHRINE,SHIP,SHOCKED FACE WITH EXPLODING HEAD,SHOOTING STAR",
      "SHOPPING BAGS,SHOPPING TROLLEY,SHORTCAKE,SHOULDERED OPEN BOX,SHOWER,SHRIMP,SHRUG,SHY,SI",
      "SIGN OF THE HORNS,SILHOUETTE OF JAPAN,SINE WAVE,SINGLE-SHIFT-2,SINGLE-SHIFT-3",
      "SIX PETALLED BLACK AND WHITE FLORETTE,SIX POINTED BLACK STAR",
      "SIX POINTED STAR WITH MIDDLE DOT,SIX-PER-EM SPACE,SIXTEEN POINTED ASTERISK,SKATEBOARD",
      "SKI AND SKI BOOT,SKIER,SKULL,SKULL AND CROSSBONES,SKUNK,SLED,SLEEPING ACCOMMODATION",
      "SLEEPING FACE,SLEEPING SYMBOL,SLEEPY FACE,SLEUTH OR SPY,SLICE OF PIZZA",
      "SLIGHTLY FROWNING FACE,SLIGHTLY SMILING FACE,SLOPE,SLOT MACHINE,SLOTH,SMILE",
      "SMILING CAT FACE WITH HEART-SHAPED EYES,SMILING CAT FACE WITH OPEN MOUTH,SMIRKING FACE",
      "SMOKING SYMBOL,SNAIL,SNAKE,SNEEZING FACE,SNOW CAPPED MOUNTAIN,SNOWBOARDER,SNOWFLAKE",
      "SNOWMAN,SNOWMAN WITHOUT SNOW,SO,SOCCER BALL,SOCKS,SOFT HYPHEN,SOFT ICE CREAM",
      "SOFT SHELL FLOPPY DISK,SOFTBALL,SOFTWARE-FUNCTION SYMBOL,SOH,SOLIDUS,SOM SIGN",
      "SOON WITH RIGHTWARDS ARROW ABOVE,SOS,SOUND RECORDING COPYRIGHT,SOUTH EAST ARROW",
      "SOUTH EAST ARROW TO CORNER,SOUTH EAST DOUBLE ARROW,SOUTH WEST ARROW",
      "SOUTH WEST DOUBLE ARROW,SP,SPA,SPACE,SPAGHETTI,SPARKLE,SPARKLES,SPARKLING HEART",
      "SPEAK-NO-EVIL MONKEY,SPEAKER,SPEAKER WITH CANCELLATION STROKE,SPEAKER WITH ONE SOUND WAVE",
      "SPEAKER WITH THREE SOUND WAVES,SPEAKING HEAD IN SILHOUETTE,SPEECH BALLOON,SPEEDBOAT",
      "SPESMILO SIGN,SPHERICAL ANGLE,SPIDER,SPIDER WEB,SPIRAL CALENDAR PAD,SPIRAL NOTE PAD",
      "SPIRAL SHELL,SPLASHING SWEAT SYMBOL,SPONGE,SPOOL OF THREAD,SPOON,SPORTS MEDAL",
      "SPOUTING WHALE,SQUAT BLACK RIGHTWARDS ARROW,SQUID,SS2,SS3,SSA,ST,STADIUM",
      "STAFF OF AESCULAPIUS,STAFF OF HERMES,STAMPED ENVELOPE,STANDING PERSON,STAR AND CRESCENT",
      "STAR EQUALS,STAR OF DAVID,STAR OPERATOR,STATION,STATUE OF LIBERTY,STEAM LOCOMOTIVE",
      "STEAMING BOWL,STOCK CHART,STOPWATCH,STRAIGHT RULER,STRAIGHTNESS,STRAWBERRY",
      "STRESS OUTLINED WHITE STAR,STRICTLY EQUIVALENT TO,STRING TERMINATOR,STS,STUDIO MICROPHONE",
      "STUFFED FLATBREAD,STUPA,STX,SUB,SUBSET OF,SUBSET OF OR EQUAL TO",
      "SUBSET OF WITH NOT EQUAL TO,SUBSTITUTE,SUCCEEDS,SUCCEEDS BUT NOT EQUIVALENT TO",
      "SUCCEEDS OR EQUAL TO,SUCCEEDS OR EQUIVALENT TO,SUCCEEDS UNDER RELATION,SUMMATION BOTTOM",
      "SUMMATION TOP,SUN,SUN BEHIND CLOUD,SUN WITH FACE,SUNFLOWER,SUNRISE,SUNRISE OVER MOUNTAINS",
      "SUNSET OVER BUILDINGS,SUPERHERO,SUPERSET OF,SUPERSET OF OR EQUAL TO",
      "SUPERSET OF WITH NOT EQUAL TO,SUPERVILLAIN,SURFACE INTEGRAL,SURFER,SUSHI",
      "SUSPENSION RAILWAY,SWAN,SWIMMER,SWUNG DASH,SYMMETRY,SYN,SYNAGOGUE,SYNCHRONOUS IDLE,SYRINGE",
      "T-REX,T-SHIRT,TAB,TABLE TENNIS PADDLE AND BALL,TACO,TAKEOUT BOX,TANABATA TREE,TANGERINE",
      "TAPE CARTRIDGE,TAPE DRIVE,TAURUS,TAXI,TEACUP WITHOUT HANDLE,TEAR-OFF CALENDAR",
      "TEARDROP-BARBED RIGHTWARDS ARROW,TEARDROP-SPOKED ASTERISK,TEDDY BEAR,TELESCOPE,TELEVISION",
      "TENGE SIGN,TENNIS RACQUET AND BALL,TENT,TEST TUBE,THERE DOES NOT EXIST,THERE EXISTS",
      "THEREFORE,THERMOMETER,THIN SPACE,THINKING FACE,THIRD PLACE MEDAL,THOUGHT BALLOON",
      "THREE-D BOTTOM-LIGHTED RIGHTWARDS ARROWHEAD,THREE-D TOP-LIGHTED RIGHTWARDS ARROWHEAD",
      "THREE-PER-EM SPACE,THUMBS DOWN SIGN,THUMBS UP SIGN,THUNDER CLOUD AND RAIN,THUNDERSTORM",
      "TICKET,TIGER,TIGER FACE,TIGHT TRIFOLIATE SNOWFLAKE,TILDE,TILDE OPERATOR,TIMER CLOCK",
      "TIRED FACE,TIRONIAN SIGN ET,TOILET,TOKYO TOWER,TOMATO,TONGUE,TOOLBOX,TOOTH,TOTAL RUNOUT",
      "TRACKBALL,TRACTOR,TRADE MARK SIGN,TRAIN,TRAM,TRAM CAR,TRIANGLE WITH ROUNDED CORNERS",
      "TRIANGLE-HEADED RIGHTWARDS ARROW,TRIANGULAR BULLET,TRIANGULAR FLAG ON POST",
      "TRIANGULAR RULER,TRICOLON,TRIDENT EMBLEM,TRIPLE INTEGRAL,TRIPLE PRIME,TRIPLE TILDE",
      "TRIPLE VERTICAL BAR RIGHT TURNSTILE,TROLL,TROLLEYBUS,TROPHY,TROPICAL DRINK,TROPICAL FISH",
      "TRUE,TRUMPET,TUGRIK SIGN,TULIP,TUMBLER GLASS,TURKEY,TURKISH LIRA SIGN,TURTLE",
      "TWELVE POINTED BLACK STAR,TWISTED RIGHTWARDS ARROWS,TWO ASTERISKS ALIGNED VERTICALLY",
      "TWO BUTTON MOUSE,TWO DOT LEADER,TWO DOT PUNCTUATION,TWO HEARTS,TWO MEN HOLDING HANDS",
      "TWO SPEECH BUBBLES,TWO WOMEN HOLDING HANDS,UMBRELLA,UMBRELLA ON GROUND",
      "UMBRELLA WITH RAIN DROPS,UNAMUSED FACE,UNDERTIE,UNDO SYMBOL,UNICORN FACE,UNION",
      "UNIT SEPARATOR,UNIVERSAL RECYCLING SYMBOL,UNMARRIED PARTNERSHIP SYMBOL,UP ARROWHEAD",
      "UP ARROWHEAD BETWEEN TWO HORIZONTAL BARS,UP DOWN ARROW,UP DOWN ARROW WITH BASE",
      "UP DOWN DOUBLE ARROW,UP DOWN WHITE ARROW,UP RIGHT DIAGONAL ELLIPSIS,UP TACK",
      "UPSIDE-DOWN FACE,URANUS,US,VAMPIRE,VERSICLE,VERY MUCH GREATER-THAN,VERY MUCH LESS-THAN",
      "VESTA,VIBRATION MODE,VICTORY HAND,VIDEO CAMERA,VIDEO GAME,VIDEOCASSETTE,VIEWDATA SQUARE",
      "VIOLIN,VIRGO,VOLCANO,VOLLEYBALL,VOLUME INTEGRAL,VT,VTS,WAFFLE,WANING CRESCENT MOON SYMBOL",
      "WANING GIBBOUS MOON SYMBOL,WARNING SIGN,WASTEBASKET,WATCH,WATER BUFFALO,WATER CLOSET",
      "WATER POLO,WATER WAVE,WATERMELON,WAVING BLACK FLAG,WAVING HAND SIGN,WAVING WHITE FLAG",
      "WAVY LINE,WAXING CRESCENT MOON SYMBOL,WAXING GIBBOUS MOON SYMBOL,WEARY CAT FACE,WEARY FACE",
      "WEDDING,WEDGE-TAILED RIGHTWARDS ARROW,WEIERSTRASS ELLIPTIC FUNCTION,WEIGHT LIFTER",
      "WEST SYRIAC CROSS,WHALE,WHEEL,WHEEL OF DHARMA,WHEELCHAIR SYMBOL",
      "WHITE-FEATHERED RIGHTWARDS ARROW,WILTED FLOWER,WIND BLOWING FACE,WIND CHIME,WINE GLASS",
      "WINKING FACE,WIRED KEYBOARD,WJ,WOLF FACE,WOMAN,WOMAN WITH BUNNY EARS,WOMANS BOOTS",
      "WOMANS CLOTHES,WOMANS HAT,WOMANS SANDAL,WOMENS SYMBOL,WON SIGN,WORD JOINER,WORLD MAP",
      "WORRIED FACE,WRAPPED PRESENT,WREATH PRODUCT,WRENCH,WRESTLERS,WRITING HAND",
      "X IN A RECTANGLE BOX,XOR,YAWNING FACE,YELLOW HEART,YEN SIGN,YIN YANG",
      "Z NOTATION BAG MEMBERSHIP,ZEBRA FACE,ZERO WIDTH JOINER,ZERO WIDTH NON-JOINER",
      "ZERO WIDTH SPACE,ZIPPER-MOUTH FACE,ZOMBIE,ZWJ,ZWNBSP,ZWNJ,ZWSP"]),
    ("ANTICLOCKWISE", [
      "CONTOUR INTEGRAL,DOWNWARDS AND UPWARDS OPEN CIRCLE ARROWS,OPEN CIRCLE ARROW",
      "TOP SEMICIRCLE ARROW"]),
    ("APL FUNCTIONAL SYMBOL", [
      "ALPHA,ALPHA UNDERBAR,BACKSLASH BAR,CIRCLE BACKSLASH,CIRCLE DIAERESIS,CIRCLE JOT",
      "CIRCLE STAR,CIRCLE STILE,CIRCLE UNDERBAR,COMMA BAR,DEL DIAERESIS,DEL STILE,DEL TILDE",
      "DELTA STILE,DELTA UNDERBAR,DIAMOND UNDERBAR,DOWN CARET TILDE,DOWN SHOE STILE,DOWN TACK JOT",
      "DOWN TACK UNDERBAR,DOWNWARDS VANE,EPSILON UNDERBAR,GREATER-THAN DIAERESIS,I-BEAM,IOTA",
      "IOTA UNDERBAR,JOT DIAERESIS,JOT UNDERBAR,LEFT SHOE STILE,LEFTWARDS VANE,OMEGA",
      "OMEGA UNDERBAR,QUAD,QUAD BACKSLASH,QUAD CIRCLE,QUAD COLON,QUAD DEL,QUAD DELTA,QUAD DIAMOND",
      "QUAD DIVIDE,QUAD DOWN CARET,QUAD DOWNWARDS ARROW,QUAD EQUAL,QUAD GREATER-THAN,QUAD JOT",
      "QUAD LEFTWARDS ARROW,QUAD LESS-THAN,QUAD NOT EQUAL,QUAD QUESTION,QUAD RIGHTWARDS ARROW",
      "QUAD SLASH,QUAD UP CARET,QUAD UPWARDS ARROW,QUOTE QUAD,QUOTE UNDERBAR,RHO,RIGHTWARDS VANE",
      "SEMICOLON UNDERBAR,SLASH BAR,SQUISH QUAD,STAR DIAERESIS,STILE TILDE,TILDE DIAERESIS",
      "UP CARET TILDE,UP SHOE JOT,UP TACK DIAERESIS,UP TACK JOT,UP TACK OVERBAR,UPWARDS VANE",
      "ZILDE"]),
    ("BALLOT BOX WITH", ["BALLOT,BOLD CHECK,BOLD SCRIPT X,CHECK,SCRIPT X,X"]),
    ("BANKNOTE WITH", ["DOLLAR SIGN,EURO SIGN,POUND SIGN,YEN SIGN"]),
    ("BLACK", [
      "CENTRE WHITE STAR,CHESS BISHOP,CHESS KING,CHESS KNIGHT,CHESS PAWN,CHESS QUEEN,CHESS ROOK",
      "CIRCLE,CIRCLE FOR RECORD,CIRCLE WITH TWO WHITE DOTS,CIRCLE WITH WHITE DOT RIGHT,CLUB SUIT",
      "CROSS ON SHIELD,DIAMOND,DIAMOND MINUS WHITE X,DIAMOND SUIT,DOWN POINTING BACKHAND INDEX",
      "DOWN-POINTING DOUBLE TRIANGLE,DOWN-POINTING SMALL TRIANGLE,DOWN-POINTING TRIANGLE",
      "DRAUGHTS KING,DRAUGHTS MAN,DROPLET,FLAG,FLORETTE,FOLDER,FOUR POINTED STAR",
      "HARD SHELL FLOPPY DISK,HEART,HEART SUIT,LEFT LANE MERGE,LEFT POINTING BACKHAND INDEX",
      "LEFT POINTING INDEX,LEFT-POINTING DOUBLE TRIANGLE",
      "LEFT-POINTING DOUBLE TRIANGLE WITH VERTICAL BAR,LEFT-POINTING POINTER",
      "LEFT-POINTING SMALL TRIANGLE,LEFT-POINTING TRIANGLE,LEFTWARDS BULLET,LOWER LEFT TRIANGLE",
      "LOWER RIGHT TRIANGLE,MEDIUM DOWN-POINTING TRIANGLE,MEDIUM LEFT-POINTING TRIANGLE",
      "MEDIUM RIGHT-POINTING TRIANGLE,MEDIUM SMALL SQUARE,MEDIUM SQUARE",
      "MEDIUM UP-POINTING TRIANGLE,MOON LILITH,NIB,PARALLELOGRAM,PENNANT,PUSHPIN",
      "QUESTION MARK ORNAMENT,RECTANGLE,RIGHT POINTING BACKHAND INDEX,RIGHT POINTING INDEX",
      "RIGHT-POINTING DOUBLE TRIANGLE,RIGHT-POINTING DOUBLE TRIANGLE WITH VERTICAL BAR",
      "RIGHT-POINTING POINTER,RIGHT-POINTING SMALL TRIANGLE,RIGHT-POINTING TRIANGLE",
      "RIGHT-POINTING TRIANGLE WITH DOUBLE VERTICAL BAR,RIGHTWARDS ARROW,RIGHTWARDS ARROWHEAD",
      "RIGHTWARDS BULLET,ROSETTE,SAFETY SCISSORS,SCISSORS,SHOGI PIECE,SKULL AND CROSSBONES",
      "SMALL SQUARE,SMILING FACE,SNOWMAN,SPADE SUIT,SQUARE,SQUARE BUTTON,SQUARE FOR STOP,STAR",
      "SUN WITH RAYS,TELEPHONE,TOUCHTONE TELEPHONE,TRUCK,TWO-WAY LEFT WAY TRAFFIC",
      "UNIVERSAL RECYCLING SYMBOL,UP POINTING BACKHAND INDEX,UP-POINTING DOUBLE TRIANGLE",
      "UP-POINTING SMALL TRIANGLE,UP-POINTING TRIANGLE,UPPER LEFT TRIANGLE,UPPER RIGHT TRIANGLE",
      "VERTICAL RECTANGLE"]),
    ("BLACK-FEATHERED", ["NORTH EAST ARROW,RIGHTWARDS ARROW,SOUTH EAST ARROW"]),
    ("BLACK-LETTER CAPITAL", ["C,H,I,R,Z"]),
    ("BOTTOM", [
      "CURLY BRACKET,HALF INTEGRAL,LEFT CORNER,LEFT CROP,PARENTHESIS,RIGHT CORNER,RIGHT CROP",
      "SQUARE BRACKET,SQUARE BRACKET OVER TOP SQUARE BRACKET,TORTOISE SHELL BRACKET"]),
    ("BOX DRAWINGS", [
      "DOUBLE DOWN AND HORIZONTAL,DOUBLE DOWN AND LEFT,DOUBLE DOWN AND RIGHT,DOUBLE HORIZONTAL",
      "DOUBLE UP AND HORIZONTAL,DOUBLE UP AND LEFT,DOUBLE UP AND RIGHT,DOUBLE VERTICAL",
      "DOUBLE VERTICAL AND HORIZONTAL,DOUBLE VERTICAL AND LEFT,DOUBLE VERTICAL AND RIGHT",
      "DOWN DOUBLE AND HORIZONTAL SINGLE,DOWN DOUBLE AND LEFT SINGLE,DOWN DOUBLE AND RIGHT SINGLE",
      "DOWN HEAVY AND HORIZONTAL LIGHT,DOWN HEAVY AND LEFT LIGHT,DOWN HEAVY AND LEFT UP LIGHT",
      "DOWN HEAVY AND RIGHT LIGHT,DOWN HEAVY AND RIGHT UP LIGHT",
      "DOWN HEAVY AND UP HORIZONTAL LIGHT,DOWN LIGHT AND HORIZONTAL HEAVY",
      "DOWN LIGHT AND LEFT HEAVY,DOWN LIGHT AND LEFT UP HEAVY,DOWN LIGHT AND RIGHT HEAVY",
      "DOWN LIGHT AND RIGHT UP HEAVY,DOWN LIGHT AND UP HORIZONTAL HEAVY",
      "DOWN SINGLE AND HORIZONTAL DOUBLE,DOWN SINGLE AND LEFT DOUBLE,DOWN SINGLE AND RIGHT DOUBLE",
      "HEAVY DOUBLE DASH HORIZONTAL,HEAVY DOUBLE DASH VERTICAL,HEAVY DOWN",
      "HEAVY DOWN AND HORIZONTAL,HEAVY DOWN AND LEFT,HEAVY DOWN AND RIGHT,HEAVY HORIZONTAL",
      "HEAVY LEFT,HEAVY LEFT AND LIGHT RIGHT,HEAVY QUADRUPLE DASH HORIZONTAL",
      "HEAVY QUADRUPLE DASH VERTICAL,HEAVY RIGHT,HEAVY TRIPLE DASH HORIZONTAL",
      "HEAVY TRIPLE DASH VERTICAL,HEAVY UP,HEAVY UP AND HORIZONTAL,HEAVY UP AND LEFT",
      "HEAVY UP AND LIGHT DOWN,HEAVY UP AND RIGHT,HEAVY VERTICAL,HEAVY VERTICAL AND HORIZONTAL",
      "HEAVY VERTICAL AND LEFT,HEAVY VERTICAL AND RIGHT,LEFT DOWN HEAVY AND RIGHT UP LIGHT",
      "LEFT HEAVY AND RIGHT DOWN LIGHT,LEFT HEAVY AND RIGHT UP LIGHT",
      "LEFT HEAVY AND RIGHT VERTICAL LIGHT,LEFT LIGHT AND RIGHT DOWN HEAVY",
      "LEFT LIGHT AND RIGHT UP HEAVY,LEFT LIGHT AND RIGHT VERTICAL HEAVY",
      "LEFT UP HEAVY AND RIGHT DOWN LIGHT,LIGHT ARC DOWN AND LEFT,LIGHT ARC DOWN AND RIGHT",
      "LIGHT ARC UP AND LEFT,LIGHT ARC UP AND RIGHT,LIGHT DIAGONAL CROSS",
      "LIGHT DIAGONAL UPPER LEFT TO LOWER RIGHT,LIGHT DIAGONAL UPPER RIGHT TO LOWER LEFT",
      "LIGHT DOUBLE DASH HORIZONTAL,LIGHT DOUBLE DASH VERTICAL,LIGHT DOWN",
      "LIGHT DOWN AND HORIZONTAL,LIGHT DOWN AND LEFT,LIGHT DOWN AND RIGHT,LIGHT HORIZONTAL",
      "LIGHT LEFT,LIGHT LEFT AND HEAVY RIGHT,LIGHT QUADRUPLE DASH HORIZONTAL",
      "LIGHT QUADRUPLE DASH VERTICAL,LIGHT RIGHT,LIGHT TRIPLE DASH HORIZONTAL",
      "LIGHT TRIPLE DASH VERTICAL,LIGHT UP,LIGHT UP AND HEAVY DOWN,LIGHT UP AND HORIZONTAL",
      "LIGHT UP AND LEFT,LIGHT UP AND RIGHT,LIGHT VERTICAL,LIGHT VERTICAL AND HORIZONTAL",
      "LIGHT VERTICAL AND LEFT,LIGHT VERTICAL AND RIGHT,RIGHT DOWN HEAVY AND LEFT UP LIGHT",
      "RIGHT HEAVY AND LEFT DOWN LIGHT,RIGHT HEAVY AND LEFT UP LIGHT",
      "RIGHT HEAVY AND LEFT VERTICAL LIGHT,RIGHT LIGHT AND LEFT DOWN HEAVY",
      "RIGHT LIGHT AND LEFT UP HEAVY,RIGHT LIGHT AND LEFT VERTICAL HEAVY",
      "RIGHT UP HEAVY AND LEFT DOWN LIGHT,UP DOUBLE AND HORIZONTAL SINGLE",
      "UP DOUBLE AND LEFT SINGLE,UP DOUBLE AND RIGHT SINGLE,UP HEAVY AND DOWN HORIZONTAL LIGHT",
      "UP HEAVY AND HORIZONTAL LIGHT,UP HEAVY AND LEFT DOWN LIGHT,UP HEAVY AND LEFT LIGHT",
      "UP HEAVY AND RIGHT DOWN LIGHT,UP HEAVY AND RIGHT LIGHT,UP LIGHT AND DOWN HORIZONTAL HEAVY",
      "UP LIGHT AND HORIZONTAL HEAVY,UP LIGHT AND LEFT DOWN HEAVY,UP LIGHT AND LEFT HEAVY",
      "UP LIGHT AND RIGHT DOWN HEAVY,UP LIGHT AND RIGHT HEAVY,UP SINGLE AND HORIZONTAL DOUBLE",
      "UP SINGLE AND LEFT DOUBLE,UP SINGLE AND RIGHT DOUBLE,VERTICAL DOUBLE AND HORIZONTAL SINGLE",
      "VERTICAL DOUBLE AND LEFT SINGLE,VERTICAL DOUBLE AND RIGHT SINGLE",
      "VERTICAL HEAVY AND HORIZONTAL LIGHT,VERTICAL HEAVY AND LEFT LIGHT",
      "VERTICAL HEAVY AND RIGHT LIGHT,VERTICAL LIGHT AND HORIZONTAL HEAVY",
      "VERTICAL LIGHT AND LEFT HEAVY,VERTICAL LIGHT AND RIGHT HEAVY",
      "VERTICAL SINGLE AND HORIZONTAL DOUBLE,VERTICAL SINGLE AND LEFT DOUBLE",
      "VERTICAL SINGLE AND RIGHT DOUBLE"]),
    ("CIRCLE WITH", [
      "ALL BUT UPPER LEFT QUADRANT BLACK,LEFT HALF BLACK,LOWER HALF BLACK,RIGHT HALF BLACK",
      "UPPER HALF BLACK,UPPER RIGHT QUADRANT BLACK,VERTICAL FILL"]),
    ("CIRCLED", [
      "ASTERISK OPERATOR,CROSS FORMEE,CROSS FORMEE WITH FOUR DOTS,CROSS FORMEE WITH TWO DOTS",
      "CROSS POMMEE,CROSSING LANES,DASH,DIGIT EIGHT,DIGIT FIVE,DIGIT FOUR,DIGIT NINE,DIGIT ONE",
      "DIGIT SEVEN,DIGIT SIX,DIGIT THREE,DIGIT TWO,DIGIT ZERO,DIVISION SLASH,DOT OPERATOR,EQUALS",
      "HEAVY WHITE RIGHTWARDS ARROW,HORIZONTAL BAR WITH NOTCH,INFORMATION SOURCE,MINUS",
      "NUMBER EIGHTEEN,NUMBER ELEVEN,NUMBER FIFTEEN,NUMBER FOURTEEN,NUMBER NINETEEN",
      "NUMBER SEVENTEEN,NUMBER SIXTEEN,NUMBER TEN,NUMBER THIRTEEN,NUMBER TWELVE,NUMBER TWENTY",
      "OPEN CENTRE EIGHT POINTED STAR,PLUS,RING OPERATOR,TIMES,TRIANGLE DOWN,WHITE STAR"]),
    ("CIRCLED LATIN CAPITAL LETTER", ["A,B,C,D,E,F,G,H,I,J,K,L,M,N,O,P,Q,R,S,T,U,V,W,X,Y,Z"]),
    ("CIRCLED LATIN SMALL LETTER", ["A,B,C,D,E,F,G,H,I,J,K,L,M,N,O,P,Q,R,S,T,U,V,W,X,Y,Z"]),
    ("CLOCK FACE", [
      "EIGHT OCLOCK,EIGHT-THIRTY,ELEVEN OCLOCK,ELEVEN-THIRTY,FIVE OCLOCK,FIVE-THIRTY,FOUR OCLOCK",
      "FOUR-THIRTY,NINE OCLOCK,NINE-THIRTY,ONE OCLOCK,ONE-THIRTY,SEVEN OCLOCK,SEVEN-THIRTY",
      "SIX OCLOCK,SIX-THIRTY,TEN OCLOCK,TEN-THIRTY,THREE OCLOCK,THREE-THIRTY,TWELVE OCLOCK",
      "TWELVE-THIRTY,TWO OCLOCK,TWO-THIRTY"]),
    ("CLOCKWISE", [
      "CONTOUR INTEGRAL,DOWNWARDS AND UPWARDS OPEN CIRCLE ARROWS,INTEGRAL,OPEN CIRCLE ARROW",
      "RIGHT AND LEFT SEMICIRCLE ARROWS,RIGHTWARDS AND LEFTWARDS OPEN CIRCLE ARROWS",
      "RIGHTWARDS AND LEFTWARDS OPEN CIRCLE ARROWS WITH CIRCLED ONE OVERLAY,TOP SEMICIRCLE ARROW"]),
    ("CLOUD WITH", ["LIGHTNING,RAIN,SNOW,TORNADO"]),
    ("COMBINING", [
      "ANNUITY SYMBOL,ANTICLOCKWISE ARROW ABOVE,ANTICLOCKWISE RING OVERLAY,ASTERISK ABOVE",
      "CLOCKWISE ARROW ABOVE,CLOCKWISE RING OVERLAY,CYRILLIC DASIA PNEUMATA",
      "CYRILLIC HUNDRED THOUSANDS SIGN,CYRILLIC MILLIONS SIGN,CYRILLIC PALATALIZATION",
      "CYRILLIC POKRYTIE,CYRILLIC PSILI PNEUMATA,CYRILLIC TITLO,DOUBLE VERTICAL STROKE OVERLAY",
      "ENCLOSING CIRCLE,ENCLOSING CIRCLE BACKSLASH,ENCLOSING DIAMOND,ENCLOSING KEYCAP",
      "ENCLOSING SCREEN,ENCLOSING SQUARE,ENCLOSING UPWARD POINTING TRIANGLE,FOUR DOTS ABOVE",
      "LEFT ARROW ABOVE,LEFT ARROW BELOW,LEFT HARPOON ABOVE,LEFT RIGHT ARROW ABOVE",
      "LEFTWARDS ARROW OVERLAY,LEFTWARDS HARPOON WITH BARB DOWNWARDS,LONG DOUBLE SOLIDUS OVERLAY",
      "LONG VERTICAL LINE OVERLAY,REVERSE SOLIDUS OVERLAY,RIGHT ARROW ABOVE,RIGHT ARROW BELOW",
      "RIGHT HARPOON ABOVE,RIGHTWARDS HARPOON WITH BARB DOWNWARDS,RING OVERLAY",
      "SHORT VERTICAL LINE OVERLAY,THREE DOTS ABOVE,TRIPLE UNDERDOT,WIDE BRIDGE ABOVE"]),
    ("CONTAINS", [
      "AS MEMBER,AS NORMAL SUBGROUP,AS NORMAL SUBGROUP OR EQUAL TO,WITH LONG HORIZONTAL STROKE",
      "WITH OVERBAR,WITH VERTICAL BAR AT END OF HORIZONTAL STROKE"]),
    ("COPTIC CAPITAL LETTER", ["DEI,FEI,GANGIA,HORI,KHEI,SHEI,SHIMA"]),
    ("COPTIC SMALL LETTER", ["DEI,FEI,GANGIA,HORI,KHEI,SHEI,SHIMA"]),
    ("CYRILLIC", [
      "CAPITAL LIGATURE A IE,CAPITAL LIGATURE EN GHE,CAPITAL LIGATURE TE TSE,LETTER PALOCHKA",
      "SMALL LIGATURE A IE,SMALL LIGATURE EN GHE,SMALL LIGATURE TE TSE,THOUSANDS SIGN"]),
    ("CYRILLIC CAPITAL LETTER", [
      "A,A WITH BREVE,A WITH DIAERESIS,ABKHASIAN CHE,ABKHASIAN CHE WITH DESCENDER,ABKHASIAN DZE",
      "ABKHASIAN HA,ALEUT KA,BARRED O,BARRED O WITH DIAERESIS,BASHKIR KA,BE,BIG YUS",
      "BYELORUSSIAN-UKRAINIAN I,CHE,CHE WITH DESCENDER,CHE WITH DIAERESIS",
      "CHE WITH VERTICAL STROKE,DCHE,DE,DJE,DZE,DZHE,DZZHE,E,E WITH DIAERESIS,EF,EL",
      "EL WITH DESCENDER,EL WITH HOOK,EL WITH MIDDLE HOOK,EL WITH TAIL,EM,EM WITH TAIL,EN",
      "EN WITH DESCENDER,EN WITH HOOK,EN WITH LEFT HOOK,EN WITH MIDDLE HOOK,EN WITH TAIL,ER",
      "ER WITH TICK,ES,ES WITH DESCENDER,FITA,GHE,GHE WITH DESCENDER,GHE WITH MIDDLE HOOK",
      "GHE WITH STROKE,GHE WITH STROKE AND HOOK,GHE WITH UPTURN,GJE,HA,HA WITH DESCENDER",
      "HA WITH HOOK,HA WITH STROKE,HARD SIGN,I,I WITH DIAERESIS,I WITH GRAVE,I WITH MACRON,IE",
      "IE WITH BREVE,IE WITH GRAVE,IO,IOTIFIED BIG YUS,IOTIFIED E,IOTIFIED LITTLE YUS,IZHITSA",
      "IZHITSA WITH DOUBLE GRAVE ACCENT,JE,KA,KA WITH DESCENDER,KA WITH HOOK,KA WITH STROKE",
      "KA WITH VERTICAL STROKE,KHAKASSIAN CHE,KJE,KOMI DE,KOMI DJE,KOMI DZJE,KOMI LJE,KOMI NJE",
      "KOMI SJE,KOMI TJE,KOMI ZJE,KOPPA,KSI,LHA,LITTLE YUS,LJE,NJE,O,O WITH DIAERESIS,OMEGA",
      "OMEGA WITH TITLO,OT,PE,PE WITH DESCENDER,PE WITH MIDDLE HOOK,PSI,QA,REVERSED ZE,RHA",
      "ROUND OMEGA,SCHWA,SCHWA WITH DIAERESIS,SEMISOFT SIGN,SHA,SHCHA,SHHA,SHHA WITH DESCENDER",
      "SHORT I,SHORT I WITH TAIL,SHORT U,SOFT SIGN,STRAIGHT U,STRAIGHT U WITH STROKE,TE",
      "TE WITH DESCENDER,TSE,TSHE,U,U WITH DIAERESIS,U WITH DOUBLE ACUTE,U WITH MACRON,UK",
      "UKRAINIAN IE,VE,WE,YA,YAE,YAT,YERU,YERU WITH DIAERESIS,YI,YU,ZE,ZE WITH DESCENDER",
      "ZE WITH DIAERESIS,ZHE,ZHE WITH BREVE,ZHE WITH DESCENDER,ZHE WITH DIAERESIS"]),
    ("CYRILLIC SMALL LETTER", [
      "A,A WITH BREVE,A WITH DIAERESIS,ABKHASIAN CHE,ABKHASIAN CHE WITH DESCENDER,ABKHASIAN DZE",
      "ABKHASIAN HA,ALEUT KA,BARRED O,BARRED O WITH DIAERESIS,BASHKIR KA,BE,BIG YUS",
      "BYELORUSSIAN-UKRAINIAN I,CHE,CHE WITH DESCENDER,CHE WITH DIAERESIS",
      "CHE WITH VERTICAL STROKE,DCHE,DE,DJE,DZE,DZHE,DZZHE,E,E WITH DIAERESIS,EF,EL",
      "EL WITH DESCENDER,EL WITH HOOK,EL WITH MIDDLE HOOK,EL WITH TAIL,EM,EM WITH TAIL,EN",
      "EN WITH DESCENDER,EN WITH HOOK,EN WITH LEFT HOOK,EN WITH MIDDLE HOOK,EN WITH TAIL,ER",
      "ER WITH TICK,ES,ES WITH DESCENDER,FITA,GHE,GHE WITH DESCENDER,GHE WITH MIDDLE HOOK",
      "GHE WITH STROKE,GHE WITH STROKE AND HOOK,GHE WITH UPTURN,GJE,HA,HA WITH DESCENDER",
      "HA WITH HOOK,HA WITH STROKE,HARD SIGN,I,I WITH DIAERESIS,I WITH GRAVE,I WITH MACRON,IE",
      "IE WITH BREVE,IE WITH GRAVE,IO,IOTIFIED BIG YUS,IOTIFIED E,IOTIFIED LITTLE YUS,IZHITSA",
      "IZHITSA WITH DOUBLE GRAVE ACCENT,JE,KA,KA WITH DESCENDER,KA WITH HOOK,KA WITH STROKE",
      "KA WITH VERTICAL STROKE,KHAKASSIAN CHE,KJE,KOMI DE,KOMI DJE,KOMI DZJE,KOMI LJE,KOMI NJE",
      "KOMI SJE,KOMI TJE,KOMI ZJE,KOPPA,KSI,LHA,LITTLE YUS,LJE,NJE,O,O WITH DIAERESIS,OMEGA",
      "OMEGA WITH TITLO,OT,PALOCHKA,PE,PE WITH DESCENDER,PE WITH MIDDLE HOOK,PSI,QA,REVERSED ZE",
      "RHA,ROUND OMEGA,SCHWA,SCHWA WITH DIAERESIS,SEMISOFT SIGN,SHA,SHCHA,SHHA",
      "SHHA WITH DESCENDER,SHORT I,SHORT I WITH TAIL,SHORT U,SOFT SIGN,STRAIGHT U",
      "STRAIGHT U WITH STROKE,TE,TE WITH DESCENDER,TSE,TSHE,U,U WITH DIAERESIS",
      "U WITH DOUBLE ACUTE,U WITH MACRON,UK,UKRAINIAN IE,VE,WE,YA,YAE,YAT,YERU",
      "YERU WITH DIAERESIS,YI,YU,ZE,ZE WITH DESCENDER,ZE WITH DIAERESIS,ZHE,ZHE WITH BREVE",
      "ZHE WITH DESCENDER,ZHE WITH DIAERESIS"]),
    ("DENTISTRY SYMBOL LIGHT", [
      "DOWN AND HORIZONTAL,DOWN AND HORIZONTAL WITH CIRCLE,DOWN AND HORIZONTAL WITH TRIANGLE",
      "DOWN AND HORIZONTAL WITH WAVE,UP AND HORIZONTAL,UP AND HORIZONTAL WITH CIRCLE",
      "UP AND HORIZONTAL WITH TRIANGLE,UP AND HORIZONTAL WITH WAVE,VERTICAL AND BOTTOM LEFT",
      "VERTICAL AND BOTTOM RIGHT,VERTICAL AND TOP LEFT,VERTICAL AND TOP RIGHT,VERTICAL AND WAVE",
      "VERTICAL WITH CIRCLE,VERTICAL WITH TRIANGLE"]),
    ("DEVICE CONTROL", ["FOUR,ONE,STRING,THREE,TWO"]),
    ("DIGIT", [
      "EIGHT,EIGHT FULL STOP,FIVE,FIVE FULL STOP,FOUR,FOUR FULL STOP,NINE,NINE FULL STOP,ONE",
      "ONE FULL STOP,SEVEN,SEVEN FULL STOP,SIX,SIX FULL STOP,THREE,THREE FULL STOP,TWO",
      "TWO FULL STOP,ZERO"]),
    ("DIGRAM FOR", ["GREATER YANG,GREATER YIN,LESSER YANG,LESSER YIN"]),
    ("DINGBAT CIRCLED SANS-SERIF DIGIT", ["EIGHT,FIVE,FOUR,NINE,ONE,SEVEN,SIX,THREE,TWO"]),
    ("DINGBAT NEGATIVE CIRCLED", [
      "DIGIT EIGHT,DIGIT FIVE,DIGIT FOUR,DIGIT NINE,DIGIT ONE,DIGIT SEVEN,DIGIT SIX,DIGIT THREE",
      "DIGIT TWO,NUMBER TEN,SANS-SERIF DIGIT EIGHT,SANS-SERIF DIGIT FIVE,SANS-SERIF DIGIT FOUR",
      "SANS-SERIF DIGIT NINE,SANS-SERIF DIGIT ONE,SANS-SERIF DIGIT SEVEN,SANS-SERIF DIGIT SIX",
      "SANS-SERIF DIGIT THREE,SANS-SERIF DIGIT TWO,SANS-SERIF NUMBER TEN"]),
    ("DOES NOT", [
      "CONTAIN AS MEMBER,CONTAIN AS NORMAL SUBGROUP,CONTAIN AS NORMAL SUBGROUP OR EQUAL,DIVIDE",
      "FORCE,PRECEDE,PRECEDE OR EQUAL,PROVE,SUCCEED,SUCCEED OR EQUAL"]),
    ("DOUBLE", [
      "CIRCLED NUMBER TEN,CURLY LOOP,DAGGER,EXCLAMATION MARK,HIGH-REVERSED-9 QUOTATION MARK",
      "INTEGRAL,INTERSECTION,LOW LINE,LOW-9 QUOTATION MARK,PRIME,QUESTION MARK,SUBSET,SUPERSET",
      "UNION,VERTICAL BAR,VERTICAL BAR DOUBLE RIGHT TURNSTILE,VERTICAL LINE"]),
    ("DOUBLE CIRCLED DIGIT", ["EIGHT,FIVE,FOUR,NINE,ONE,SEVEN,SIX,THREE,TWO"]),
    ("DOUBLE-STRUCK", [
      "CAPITAL C,CAPITAL GAMMA,CAPITAL H,CAPITAL N,CAPITAL P,CAPITAL PI,CAPITAL Q,CAPITAL R",
      "CAPITAL Z,ITALIC CAPITAL D,ITALIC SMALL D,ITALIC SMALL E,ITALIC SMALL I,ITALIC SMALL J",
      "N-ARY SUMMATION,SMALL GAMMA,SMALL PI"]),
    ("DOWNWARD FACING", ["HOOK,HOOK WITH DOT,NOTCHED HOOK,NOTCHED HOOK WITH DOT"]),
    ("DOWNWARDS", [
      "ARROW,ARROW FROM BAR,ARROW LEFTWARDS OF UPWARDS ARROW,ARROW WITH CORNER LEFTWARDS",
      "ARROW WITH DOUBLE STROKE,ARROW WITH TIP LEFTWARDS,ARROW WITH TIP RIGHTWARDS,DASHED ARROW",
      "DOUBLE ARROW,HARPOON WITH BARB LEFTWARDS,HARPOON WITH BARB RIGHTWARDS,PAIRED ARROWS",
      "TWO HEADED ARROW,WHITE ARROW,ZIGZAG ARROW"]),
    ("ELEMENT OF WITH", [
      "DOT ABOVE,LONG HORIZONTAL STROKE,OVERBAR,TWO HORIZONTAL STROKES,UNDERBAR",
      "VERTICAL BAR AT END OF HORIZONTAL STROKE"]),
    ("EMOJI COMPONENT", ["BALD,CURLY HAIR,RED HAIR,WHITE HAIR"]),
    ("EMOJI MODIFIER FITZPATRICK", ["TYPE-1-2,TYPE-3,TYPE-4,TYPE-5,TYPE-6"]),
    ("EMPTY", ["DOCUMENT,NOTE,NOTE PAD,NOTE PAGE,PAGE,PAGES,SET"]),
    ("END OF", [
      "GUARDED AREA,LINE,MEDIUM,PROOF,PROTECTED AREA,SELECTED AREA,TEXT,TRANSMISSION",
      "TRANSMISSION BLOCK"]),
    ("EQUAL TO OR", ["GREATER-THAN,LESS-THAN,PRECEDES,SUCCEEDS"]),
    ("FACE WITH", [
      "COLD SWEAT,COWBOY HAT,FINGER COVERING CLOSED LIPS,HEAD-BANDAGE,LOOK OF TRIUMPH",
      "MEDICAL MASK,MONOCLE,NO GOOD GESTURE,OK GESTURE,ONE EYEBROW RAISED,OPEN MOUTH",
      "OPEN MOUTH AND COLD SWEAT,OPEN MOUTH VOMITING,PARTY HORN AND PARTY HAT,PLEADING EYES",
      "ROLLING EYES,STUCK-OUT TONGUE,STUCK-OUT TONGUE AND TIGHTLY-CLOSED EYES",
      "STUCK-OUT TONGUE AND WINKING EYE,TEARS OF JOY,THERMOMETER,UNEVEN EYES AND WAVY MOUTH"]),
    ("GREATER-THAN", [
      "BUT NOT EQUAL TO,BUT NOT EQUIVALENT TO,EQUAL TO OR LESS-THAN,OR EQUAL TO,OR EQUIVALENT TO",
      "OR LESS-THAN,OVER EQUAL TO,SIGN,WITH DOT"]),
    ("GREEK", [
      "ANO TELEIA,BETA SYMBOL,CAPITAL DOTTED LUNATE SIGMA SYMBOL,CAPITAL KAI SYMBOL",
      "CAPITAL LUNATE SIGMA SYMBOL,CAPITAL REVERSED DOTTED LUNATE SIGMA SYMBOL",
      "CAPITAL REVERSED LUNATE SIGMA SYMBOL,CAPITAL THETA SYMBOL,DIALYTIKA TONOS,KAI SYMBOL",
      "KAPPA SYMBOL,LETTER ARCHAIC KOPPA,LETTER DIGAMMA,LETTER KOPPA,LETTER SAMPI,LETTER STIGMA",
      "LETTER YOT,LOWER NUMERAL SIGN,LUNATE EPSILON SYMBOL,LUNATE SIGMA SYMBOL,NUMERAL SIGN",
      "PHI SYMBOL,PI SYMBOL,QUESTION MARK,REVERSED LUNATE EPSILON SYMBOL,RHO SYMBOL",
      "RHO WITH STROKE SYMBOL,SMALL DOTTED LUNATE SIGMA SYMBOL",
      "SMALL REVERSED DOTTED LUNATE SIGMA SYMBOL,SMALL REVERSED LUNATE SIGMA SYMBOL,THETA SYMBOL",
      "TONOS,UPSILON WITH ACUTE AND HOOK SYMBOL,UPSILON WITH DIAERESIS AND HOOK SYMBOL",
      "UPSILON WITH HOOK SYMBOL,YPOGEGRAMMENI"]),
    ("GREEK CAPITAL LETTER", [
      "ALPHA,ALPHA WITH TONOS,ARCHAIC SAMPI,BETA,CHI,DELTA,EPSILON,EPSILON WITH TONOS,ETA",
      "ETA WITH TONOS,GAMMA,HETA,IOTA,IOTA WITH DIALYTIKA,IOTA WITH TONOS,KAPPA,LAMDA,MU,NU,OMEGA",
      "OMEGA WITH TONOS,OMICRON,OMICRON WITH TONOS,PAMPHYLIAN DIGAMMA,PHI,PI,PSI,RHO,SAN,SHO",
      "SIGMA,TAU,THETA,UPSILON,UPSILON WITH DIALYTIKA,UPSILON WITH TONOS,XI,YOT,ZETA"]),
    ("GREEK SMALL LETTER", [
      "ALPHA,ALPHA WITH TONOS,ARCHAIC KOPPA,ARCHAIC SAMPI,BETA,CHI,DELTA,DIGAMMA,EPSILON",
      "EPSILON WITH TONOS,ETA,ETA WITH TONOS,FINAL SIGMA,GAMMA,HETA,IOTA,IOTA WITH DIALYTIKA",
      "IOTA WITH DIALYTIKA AND TONOS,IOTA WITH TONOS,KAPPA,KOPPA,LAMDA,MU,NU,OMEGA",
      "OMEGA WITH TONOS,OMICRON,OMICRON WITH TONOS,PAMPHYLIAN DIGAMMA,PHI,PI,PSI,RHO,SAMPI,SAN",
      "SHO,SIGMA,STIGMA,TAU,THETA,UPSILON,UPSILON WITH DIALYTIKA,UPSILON WITH DIALYTIKA AND TONOS",
      "UPSILON WITH TONOS,XI,ZETA"]),
    ("GRINNING FACE WITH", ["ONE LARGE AND ONE SMALL EYE,SMILING EYES,STAR EYES"]),
    ("HEAVY", [
      "ASTERISK,BALLOT X,BLACK CURVED DOWNWARDS AND RIGHTWARDS ARROW",
      "BLACK CURVED UPWARDS AND RIGHTWARDS ARROW,BLACK HEART,BLACK-FEATHERED NORTH EAST ARROW",
      "BLACK-FEATHERED RIGHTWARDS ARROW,BLACK-FEATHERED SOUTH EAST ARROW,CHECK MARK",
      "CHEVRON SNOWFLAKE,CIRCLE WITH STROKE AND TWO DOTS ABOVE",
      "CONCAVE-POINTED BLACK RIGHTWARDS ARROW,DASHED TRIANGLE-HEADED RIGHTWARDS ARROW",
      "DIVISION SIGN,DOLLAR SIGN,DOUBLE COMMA QUOTATION MARK ORNAMENT",
      "DOUBLE TURNED COMMA QUOTATION MARK ORNAMENT,EIGHT POINTED RECTILINEAR BLACK STAR",
      "EIGHT TEARDROP-SPOKED PROPELLER ASTERISK,EXCLAMATION MARK ORNAMENT,EXCLAMATION MARK SYMBOL",
      "FOUR BALLOON-SPOKED ASTERISK,GREEK CROSS,HEART EXCLAMATION MARK ORNAMENT,LATIN CROSS",
      "LEFT-POINTING ANGLE BRACKET ORNAMENT,LEFT-POINTING ANGLE QUOTATION MARK ORNAMENT",
      "LOW DOUBLE COMMA QUOTATION MARK ORNAMENT,LOW SINGLE COMMA QUOTATION MARK ORNAMENT",
      "LOWER RIGHT-SHADOWED WHITE RIGHTWARDS ARROW,MINUS SIGN,MULTIPLICATION X,NORTH EAST ARROW",
      "OPEN CENTRE CROSS,OUTLINED BLACK STAR,PLUS SIGN,RIGHT-POINTING ANGLE BRACKET ORNAMENT",
      "RIGHT-POINTING ANGLE QUOTATION MARK ORNAMENT,RIGHTWARDS ARROW",
      "ROUND-TIPPED RIGHTWARDS ARROW,SINGLE COMMA QUOTATION MARK ORNAMENT",
      "SINGLE TURNED COMMA QUOTATION MARK ORNAMENT,SOUTH EAST ARROW,SPARKLE",
      "TEARDROP-SHANKED RIGHTWARDS ARROW,TEARDROP-SPOKED ASTERISK",
      "TEARDROP-SPOKED PINWHEEL ASTERISK,TRIANGLE-HEADED RIGHTWARDS ARROW",
      "UPPER RIGHT-SHADOWED WHITE RIGHTWARDS ARROW,VERTICAL BAR,WEDGE-TAILED RIGHTWARDS ARROW",
      "WHITE DOWN-POINTING TRIANGLE,WIDE-HEADED RIGHTWARDS ARROW"]),
    ("HORIZONTAL", [
      "BAR,ELLIPSIS,LINE EXTENSION,MALE WITH STROKE SIGN,SCAN LINE-1,SCAN LINE-3,SCAN LINE-7",
      "SCAN LINE-9,TABULATION,TABULATION SET,TABULATION WITH JUSTIFICATION,TRAFFIC LIGHT"]),
    ("INFORMATION SEPARATOR", ["FOUR,ONE,THREE,TWO"]),
    ("INPUT SYMBOL FOR", [
      "LATIN CAPITAL LETTERS,LATIN LETTERS,LATIN SMALL LETTERS,NUMBERS,SYMBOLS"]),
    ("INVERTED", ["EXCLAMATION MARK,LAZY S,OHM SIGN,PENTAGRAM,QUESTION MARK,UNDERTIE"]),
    ("JAPANESE", ["BANK SYMBOL,CASTLE,DOLLS,GOBLIN,OGRE,POST OFFICE,SYMBOL FOR BEGINNER"]),
    ("LATIN CAPITAL LETTER", [
      "A,A WITH ACUTE,A WITH BREVE,A WITH CARON,A WITH CIRCUMFLEX,A WITH DIAERESIS",
      "A WITH DIAERESIS AND MACRON,A WITH DOT ABOVE,A WITH DOT ABOVE AND MACRON",
      "A WITH DOUBLE GRAVE,A WITH GRAVE,A WITH INVERTED BREVE,A WITH MACRON,A WITH OGONEK",
      "A WITH RING ABOVE,A WITH RING ABOVE AND ACUTE,A WITH STROKE,A WITH TILDE,AE,AE WITH ACUTE",
      "AE WITH MACRON,AFRICAN D,B,B WITH HOOK,B WITH STROKE,B WITH TOPBAR,C,C WITH ACUTE",
      "C WITH CARON,C WITH CEDILLA,C WITH CIRCUMFLEX,C WITH DOT ABOVE,C WITH HOOK,C WITH STROKE,D",
      "D WITH CARON,D WITH HOOK,D WITH SMALL LETTER Z,D WITH SMALL LETTER Z WITH CARON",
      "D WITH STROKE,D WITH TOPBAR,DZ,DZ WITH CARON,E,E WITH ACUTE,E WITH BREVE,E WITH CARON",
      "E WITH CEDILLA,E WITH CIRCUMFLEX,E WITH DIAERESIS,E WITH DOT ABOVE,E WITH DOUBLE GRAVE",
      "E WITH GRAVE,E WITH INVERTED BREVE,E WITH MACRON,E WITH OGONEK,E WITH STROKE,ENG,ESH,ETH",
      "EZH,EZH REVERSED,EZH WITH CARON,F,F WITH HOOK,G,G WITH ACUTE,G WITH BREVE,G WITH CARON",
      "G WITH CEDILLA,G WITH CIRCUMFLEX,G WITH DOT ABOVE,G WITH HOOK,G WITH STROKE,GAMMA,GHA",
      "GLOTTAL STOP,H,H WITH CARON,H WITH CIRCUMFLEX,H WITH STROKE,HWAIR,I,I WITH ACUTE",
      "I WITH BREVE,I WITH CARON,I WITH CIRCUMFLEX,I WITH DIAERESIS,I WITH DOT ABOVE",
      "I WITH DOUBLE GRAVE,I WITH GRAVE,I WITH INVERTED BREVE,I WITH MACRON,I WITH OGONEK",
      "I WITH STROKE,I WITH TILDE,IOTA,J,J WITH CIRCUMFLEX,J WITH STROKE,K,K WITH CARON",
      "K WITH CEDILLA,K WITH HOOK,L,L WITH ACUTE,L WITH BAR,L WITH CARON,L WITH CEDILLA",
      "L WITH MIDDLE DOT,L WITH SMALL LETTER J,L WITH STROKE,LJ,M,N,N WITH ACUTE,N WITH CARON",
      "N WITH CEDILLA,N WITH GRAVE,N WITH LEFT HOOK,N WITH LONG RIGHT LEG,N WITH SMALL LETTER J",
      "N WITH TILDE,NJ,O,O WITH ACUTE,O WITH BREVE,O WITH CARON,O WITH CIRCUMFLEX",
      "O WITH DIAERESIS,O WITH DIAERESIS AND MACRON,O WITH DOT ABOVE,O WITH DOT ABOVE AND MACRON",
      "O WITH DOUBLE ACUTE,O WITH DOUBLE GRAVE,O WITH GRAVE,O WITH HORN,O WITH INVERTED BREVE",
      "O WITH MACRON,O WITH MIDDLE TILDE,O WITH OGONEK,O WITH OGONEK AND MACRON,O WITH STROKE",
      "O WITH STROKE AND ACUTE,O WITH TILDE,O WITH TILDE AND MACRON,OI,OPEN E,OPEN O,OU,P",
      "P WITH HOOK,Q,R,R WITH ACUTE,R WITH CARON,R WITH CEDILLA,R WITH DOUBLE GRAVE",
      "R WITH INVERTED BREVE,R WITH STROKE,REVERSED E,S,S WITH ACUTE,S WITH CARON,S WITH CEDILLA",
      "S WITH CIRCUMFLEX,S WITH COMMA BELOW,SCHWA,SMALL Q WITH HOOK TAIL,T,T WITH CARON",
      "T WITH CEDILLA,T WITH COMMA BELOW,T WITH DIAGONAL STROKE,T WITH HOOK,T WITH RETROFLEX HOOK",
      "T WITH STROKE,THORN,TONE FIVE,TONE SIX,TONE TWO,TURNED M,TURNED V,U,U BAR,U WITH ACUTE",
      "U WITH BREVE,U WITH CARON,U WITH CIRCUMFLEX,U WITH DIAERESIS,U WITH DIAERESIS AND ACUTE",
      "U WITH DIAERESIS AND CARON,U WITH DIAERESIS AND GRAVE,U WITH DIAERESIS AND MACRON",
      "U WITH DOUBLE ACUTE,U WITH DOUBLE GRAVE,U WITH GRAVE,U WITH HORN,U WITH INVERTED BREVE",
      "U WITH MACRON,U WITH OGONEK,U WITH RING ABOVE,U WITH TILDE,UPSILON,V,V WITH HOOK,W",
      "W WITH CIRCUMFLEX,WYNN,X,Y,Y WITH ACUTE,Y WITH CIRCUMFLEX,Y WITH DIAERESIS,Y WITH HOOK",
      "Y WITH MACRON,Y WITH STROKE,YOGH,Z,Z WITH ACUTE,Z WITH CARON,Z WITH DOT ABOVE,Z WITH HOOK",
      "Z WITH STROKE"]),
    ("LATIN LETTER", [
      "ALVEOLAR CLICK,DENTAL CLICK,INVERTED GLOTTAL STOP WITH STROKE,LATERAL CLICK",
      "RETROFLEX CLICK,REVERSED ESH LOOP,TWO WITH STROKE,WYNN,YR"]),
    ("LATIN SMALL LETTER", [
      "A,A WITH ACUTE,A WITH BREVE,A WITH CARON,A WITH CIRCUMFLEX,A WITH DIAERESIS",
      "A WITH DIAERESIS AND MACRON,A WITH DOT ABOVE,A WITH DOT ABOVE AND MACRON",
      "A WITH DOUBLE GRAVE,A WITH GRAVE,A WITH INVERTED BREVE,A WITH MACRON,A WITH OGONEK",
      "A WITH RING ABOVE,A WITH RING ABOVE AND ACUTE,A WITH TILDE,AE,AE WITH ACUTE,AE WITH MACRON",
      "B,B WITH STROKE,B WITH TOPBAR,C,C WITH ACUTE,C WITH CARON,C WITH CEDILLA,C WITH CIRCUMFLEX",
      "C WITH DOT ABOVE,C WITH HOOK,C WITH STROKE,D,D WITH CARON,D WITH CURL,D WITH STROKE",
      "D WITH TOPBAR,DB DIGRAPH,DOTLESS I,DOTLESS J,DZ,DZ WITH CARON,E,E WITH ACUTE,E WITH BREVE",
      "E WITH CARON,E WITH CEDILLA,E WITH CIRCUMFLEX,E WITH DIAERESIS,E WITH DOT ABOVE",
      "E WITH DOUBLE GRAVE,E WITH GRAVE,E WITH INVERTED BREVE,E WITH MACRON,E WITH OGONEK",
      "E WITH STROKE,ENG,ETH,EZH REVERSED,EZH WITH CARON,EZH WITH TAIL,F,F WITH HOOK,G",
      "G WITH ACUTE,G WITH BREVE,G WITH CARON,G WITH CEDILLA,G WITH CIRCUMFLEX,G WITH DOT ABOVE",
      "G WITH STROKE,GHA,GLOTTAL STOP,H,H WITH CARON,H WITH CIRCUMFLEX,H WITH STROKE,HV,I",
      "I WITH ACUTE,I WITH BREVE,I WITH CARON,I WITH CIRCUMFLEX,I WITH DIAERESIS",
      "I WITH DOUBLE GRAVE,I WITH GRAVE,I WITH INVERTED BREVE,I WITH MACRON,I WITH OGONEK",
      "I WITH TILDE,J,J WITH CARON,J WITH CIRCUMFLEX,J WITH STROKE,K,K WITH CARON,K WITH CEDILLA",
      "K WITH HOOK,KRA,L,L WITH ACUTE,L WITH BAR,L WITH CARON,L WITH CEDILLA,L WITH CURL",
      "L WITH MIDDLE DOT,L WITH STROKE,LAMBDA WITH STROKE,LJ,LONG S,M,N,N PRECEDED BY APOSTROPHE",
      "N WITH ACUTE,N WITH CARON,N WITH CEDILLA,N WITH CURL,N WITH GRAVE,N WITH LONG RIGHT LEG",
      "N WITH TILDE,NJ,O,O WITH ACUTE,O WITH BREVE,O WITH CARON,O WITH CIRCUMFLEX",
      "O WITH DIAERESIS,O WITH DIAERESIS AND MACRON,O WITH DOT ABOVE,O WITH DOT ABOVE AND MACRON",
      "O WITH DOUBLE ACUTE,O WITH DOUBLE GRAVE,O WITH GRAVE,O WITH HORN,O WITH INVERTED BREVE",
      "O WITH MACRON,O WITH OGONEK,O WITH OGONEK AND MACRON,O WITH STROKE,O WITH STROKE AND ACUTE",
      "O WITH TILDE,O WITH TILDE AND MACRON,OI,OU,P,P WITH HOOK,Q,Q WITH HOOK TAIL,QP DIGRAPH,R",
      "R WITH ACUTE,R WITH CARON,R WITH CEDILLA,R WITH DOUBLE GRAVE,R WITH INVERTED BREVE",
      "R WITH STROKE,REVERSED C,S,S WITH ACUTE,S WITH CARON,S WITH CEDILLA,S WITH CIRCUMFLEX",
      "S WITH COMMA BELOW,S WITH SWASH TAIL,SHARP S,T,T WITH CARON,T WITH CEDILLA",
      "T WITH COMMA BELOW,T WITH CURL,T WITH HOOK,T WITH PALATAL HOOK,T WITH STROKE,THORN",
      "TONE FIVE,TONE SIX,TONE TWO,TURNED DELTA,TURNED E,U,U WITH ACUTE,U WITH BREVE,U WITH CARON",
      "U WITH CIRCUMFLEX,U WITH DIAERESIS,U WITH DIAERESIS AND ACUTE,U WITH DIAERESIS AND CARON",
      "U WITH DIAERESIS AND GRAVE,U WITH DIAERESIS AND MACRON,U WITH DOUBLE ACUTE",
      "U WITH DOUBLE GRAVE,U WITH GRAVE,U WITH HORN,U WITH INVERTED BREVE,U WITH MACRON",
      "U WITH OGONEK,U WITH RING ABOVE,U WITH TILDE,V,W,W WITH CIRCUMFLEX,X,Y,Y WITH ACUTE",
      "Y WITH CIRCUMFLEX,Y WITH DIAERESIS,Y WITH HOOK,Y WITH MACRON,Y WITH STROKE,YOGH,Z",
      "Z WITH ACUTE,Z WITH CARON,Z WITH DOT ABOVE,Z WITH HOOK,Z WITH STROKE,Z WITH SWASH TAIL"]),
    ("LATIN SUBSCRIPT SMALL LETTER", ["A,E,H,K,L,M,N,O,P,S,SCHWA,T,X"]),
    ("LEFT", [
      "ANGER BUBBLE,CEILING,CLOSED ENTRY,CURLY BRACKET,CURLY BRACKET LOWER HOOK",
      "CURLY BRACKET MIDDLE PIECE,CURLY BRACKET UPPER HOOK,DOUBLE QUOTATION MARK",
      "FIVE EIGHTHS BLOCK,FLOOR,HALF BLACK CIRCLE,HALF BLOCK,HALF CIRCLE,HALF CIRCLE WITH DOT",
      "HALF CIRCLE WITH FOUR DOTS,HALF CIRCLE WITH THREE DOTS,HALF CIRCLE WITH TWO DOTS",
      "HAND TELEPHONE RECEIVER,LUGGAGE,NORMAL FACTOR SEMIDIRECT PRODUCT,ONE EIGHTH BLOCK",
      "ONE QUARTER BLOCK,PARENTHESIS,PARENTHESIS EXTENSION,PARENTHESIS LOWER HOOK",
      "PARENTHESIS UPPER HOOK,RIGHT ARROW,RIGHT ARROW WITH DOUBLE VERTICAL STROKE",
      "RIGHT ARROW WITH STROKE,RIGHT ARROW WITH VERTICAL STROKE,RIGHT DOUBLE ARROW",
      "RIGHT DOUBLE ARROW WITH STROKE,RIGHT OPEN-HEADED ARROW,RIGHT WAVE ARROW,SEMIDIRECT PRODUCT",
      "SEVEN EIGHTHS BLOCK,SINGLE QUOTATION MARK,SPEECH BUBBLE,SQUARE BRACKET",
      "SQUARE BRACKET EXTENSION,SQUARE BRACKET LOWER CORNER,SQUARE BRACKET UPPER CORNER",
      "SQUARE BRACKET WITH QUILL,TACK,THOUGHT BUBBLE,THREE EIGHTHS BLOCK,THREE QUARTERS BLOCK",
      "VERTICAL BOX LINE,WRITING HAND"]),
    ("LEFT-TO-RIGHT", ["EMBEDDING,ISOLATE,MARK,OVERRIDE"]),
    ("LEFTWARDS", [
      "ARROW,ARROW FROM BAR,ARROW OVER RIGHTWARDS ARROW,ARROW TO BAR",
      "ARROW TO BAR OVER RIGHTWARDS ARROW TO BAR,ARROW WITH DOUBLE VERTICAL STROKE",
      "ARROW WITH HOOK,ARROW WITH LOOP,ARROW WITH STROKE,ARROW WITH TAIL",
      "ARROW WITH VERTICAL STROKE,DASHED ARROW,DOUBLE ARROW,DOUBLE ARROW WITH STROKE",
      "HARPOON OVER RIGHTWARDS HARPOON,HARPOON WITH BARB DOWNWARDS,HARPOON WITH BARB UPWARDS",
      "OPEN-HEADED ARROW,PAIRED ARROWS,SQUIGGLE ARROW,TRIPLE ARROW,TWO HEADED ARROW,WAVE ARROW",
      "WHITE ARROW"]),
    ("LESS-THAN", [
      "BUT NOT EQUAL TO,BUT NOT EQUIVALENT TO,EQUAL TO OR GREATER-THAN,OR EQUAL TO",
      "OR EQUIVALENT TO,OR GREATER-THAN,OVER EQUAL TO,SIGN,WITH DOT"]),
    ("LOWER", [
      "BLADE SCISSORS,FIVE EIGHTHS BLOCK,HALF BLOCK,HALF CIRCLE,HALF INVERSE WHITE CIRCLE",
      "LEFT BALLPOINT PEN,LEFT CRAYON,LEFT FOUNTAIN PEN,LEFT PAINTBRUSH,LEFT PENCIL",
      "LEFT QUADRANT CIRCULAR ARC,LEFT TRIANGLE,ONE EIGHTH BLOCK,ONE QUARTER BLOCK",
      "RIGHT DROP-SHADOWED WHITE SQUARE,RIGHT PENCIL,RIGHT QUADRANT CIRCULAR ARC",
      "RIGHT SHADOWED WHITE CIRCLE,RIGHT SHADOWED WHITE SQUARE,RIGHT TRIANGLE,SEVEN EIGHTHS BLOCK",
      "THREE EIGHTHS BLOCK,THREE QUARTERS BLOCK"]),
    ("MEDIUM", [
      "BLACK CIRCLE,FLATTENED LEFT PARENTHESIS ORNAMENT,FLATTENED RIGHT PARENTHESIS ORNAMENT",
      "LEFT CURLY BRACKET ORNAMENT,LEFT PARENTHESIS ORNAMENT,LEFT-POINTING ANGLE BRACKET ORNAMENT",
      "MATHEMATICAL SPACE,RIGHT CURLY BRACKET ORNAMENT,RIGHT PARENTHESIS ORNAMENT",
      "RIGHT-POINTING ANGLE BRACKET ORNAMENT,SHADE,SMALL WHITE CIRCLE,VERTICAL BAR,WHITE CIRCLE"]),
    ("METRICAL", [
      "BREVE,LONG OVER SHORT,LONG OVER TWO SHORTS,PENTASEME,SHORT OVER LONG,TETRASEME,TRISEME",
      "TWO SHORTS JOINED,TWO SHORTS OVER LONG"]),
    ("N-ARY", ["COPRODUCT,INTERSECTION,LOGICAL AND,LOGICAL OR,PRODUCT,SUMMATION,UNION"]),
    ("NEGATIVE CIRCLED NUMBER", [
      "EIGHTEEN,ELEVEN,FIFTEEN,FOURTEEN,NINETEEN,SEVENTEEN,SIXTEEN,THIRTEEN,TWELVE,TWENTY"]),
    ("NEITHER", [
      "A SUBSET OF NOR EQUAL TO,A SUPERSET OF NOR EQUAL TO,APPROXIMATELY NOR ACTUALLY EQUAL TO",
      "GREATER-THAN NOR EQUAL TO,GREATER-THAN NOR EQUIVALENT TO,GREATER-THAN NOR LESS-THAN",
      "LESS-THAN NOR EQUAL TO,LESS-THAN NOR EQUIVALENT TO,LESS-THAN NOR GREATER-THAN"]),
    ("NORTH WEST", ["ARROW,ARROW TO CORNER,ARROW TO LONG BAR,DOUBLE ARROW"]),
    ("NOT", [
      "A SUBSET OF,A SUPERSET OF,ALMOST EQUAL TO,AN ELEMENT OF,ASYMPTOTICALLY EQUAL TO,CHECK MARK",
      "EQUAL TO,EQUIVALENT TO,GREATER-THAN,IDENTICAL TO,LESS-THAN,NORMAL SUBGROUP OF",
      "NORMAL SUBGROUP OF OR EQUAL TO,PARALLEL TO,SIGN,SQUARE IMAGE OF OR EQUAL TO",
      "SQUARE ORIGINAL OF OR EQUAL TO,TILDE,TRUE"]),
    ("NUMBER", [
      "EIGHTEEN FULL STOP,ELEVEN FULL STOP,FIFTEEN FULL STOP,FOURTEEN FULL STOP",
      "NINETEEN FULL STOP,SEVENTEEN FULL STOP,SIGN,SIXTEEN FULL STOP,TEN FULL STOP",
      "THIRTEEN FULL STOP,TWELVE FULL STOP,TWENTY FULL STOP"]),
    ("OCR", [
      "AMOUNT OF CHECK,BELT BUCKLE,BOW TIE,BRANCH BANK IDENTIFICATION,CHAIR",
      "CUSTOMER ACCOUNT NUMBER,DASH,DOUBLE BACKSLASH,FORK,HOOK,INVERTED FORK"]),
    ("ONCOMING", ["AUTOMOBILE,BUS,FIRE ENGINE,POLICE CAR,TAXI"]),
    ("OPEN", [
      "BOOK,BOX,CENTRE ASTERISK,CENTRE BLACK STAR,CENTRE CROSS,CENTRE TEARDROP-SPOKED ASTERISK",
      "FILE FOLDER,FOLDER,HANDS SIGN,LOCK,MAILBOX WITH LOWERED FLAG,MAILBOX WITH RAISED FLAG"]),
    ("PARENTHESIZED", [
      "DIGIT EIGHT,DIGIT FIVE,DIGIT FOUR,DIGIT NINE,DIGIT ONE,DIGIT SEVEN,DIGIT SIX,DIGIT THREE",
      "DIGIT TWO,NUMBER EIGHTEEN,NUMBER ELEVEN,NUMBER FIFTEEN,NUMBER FOURTEEN,NUMBER NINETEEN",
      "NUMBER SEVENTEEN,NUMBER SIXTEEN,NUMBER TEN,NUMBER THIRTEEN,NUMBER TWELVE,NUMBER TWENTY"]),
    ("PARENTHESIZED LATIN SMALL LETTER", ["A,B,C,D,E,F,G,H,I,J,K,L,M,N,O,P,Q,R,S,T,U,V,W,X,Y,Z"]),
    ("PARTIAL LINE", ["BACKWARD,DOWN,FORWARD,UP"]),
    ("PERSON", [
      "BOWING DEEPLY,CLIMBING,DOING CARTWHEEL,FROWNING,IN LOTUS POSITION,IN STEAMY ROOM",
      "RAISING BOTH HANDS IN CELEBRATION,WITH BALL,WITH BLOND HAIR,WITH FOLDED HANDS",
      "WITH HEADSCARF,WITH POUTING FACE"]),
    ("QUADRANT UPPER", [
      "LEFT,LEFT AND LOWER LEFT AND LOWER RIGHT,LEFT AND LOWER RIGHT",
      "LEFT AND UPPER RIGHT AND LOWER LEFT,LEFT AND UPPER RIGHT AND LOWER RIGHT,RIGHT",
      "RIGHT AND LOWER LEFT,RIGHT AND LOWER LEFT AND LOWER RIGHT"]),
    ("RECYCLING SYMBOL FOR", [
      "GENERIC MATERIALS,TYPE-1 PLASTICS,TYPE-2 PLASTICS,TYPE-3 PLASTICS,TYPE-4 PLASTICS",
      "TYPE-5 PLASTICS,TYPE-6 PLASTICS,TYPE-7 PLASTICS"]),
    ("REVERSED", [
      "DOUBLE PRIME,HAND WITH MIDDLE FINGER EXTENDED,NOT SIGN,PILCROW SIGN,PRIME",
      "RAISED HAND WITH FINGERS SPLAYED,ROTATED FLORAL HEART BULLET,SANS-SERIF CAPITAL L",
      "SEMICOLON,THUMBS DOWN SIGN,THUMBS UP SIGN,TILDE,TILDE EQUALS,TRIPLE PRIME,VICTORY HAND"]),
    ("RIGHT", [
      "ANGER BUBBLE,ANGLE,ANGLE WITH ARC,ANGLE WITH DOWNWARDS ZIGZAG ARROW",
      "ARROW WITH SMALL CIRCLE,CEILING,CURLY BRACKET,CURLY BRACKET LOWER HOOK",
      "CURLY BRACKET MIDDLE PIECE,CURLY BRACKET UPPER HOOK,DOUBLE QUOTATION MARK,FLOOR",
      "HALF BLACK CIRCLE,HALF BLOCK,HAND TELEPHONE RECEIVER,NORMAL FACTOR SEMIDIRECT PRODUCT",
      "ONE EIGHTH BLOCK,PARENTHESIS,PARENTHESIS EXTENSION,PARENTHESIS LOWER HOOK",
      "PARENTHESIS UPPER HOOK,SEMIDIRECT PRODUCT,SINGLE QUOTATION MARK,SPEAKER",
      "SPEAKER WITH ONE SOUND WAVE,SPEAKER WITH THREE SOUND WAVES,SPEECH BUBBLE,SQUARE BRACKET",
      "SQUARE BRACKET EXTENSION,SQUARE BRACKET LOWER CORNER,SQUARE BRACKET UPPER CORNER",
      "SQUARE BRACKET WITH QUILL,TACK,THOUGHT BUBBLE,TRIANGLE,VERTICAL BOX LINE"]),
    ("RIGHT-POINTING", ["ANGLE BRACKET,DOUBLE ANGLE QUOTATION MARK,MAGNIFYING GLASS"]),
    ("RIGHT-TO-LEFT", ["EMBEDDING,ISOLATE,MARK,OVERRIDE"]),
    ("RIGHTWARDS", [
      "ARROW,ARROW FROM BAR,ARROW OVER LEFTWARDS ARROW,ARROW TO BAR,ARROW WITH CORNER DOWNWARDS",
      "ARROW WITH DOUBLE VERTICAL STROKE,ARROW WITH HOOK,ARROW WITH LOOP,ARROW WITH STROKE",
      "ARROW WITH TAIL,ARROW WITH VERTICAL STROKE,DASHED ARROW,DOUBLE ARROW",
      "DOUBLE ARROW WITH STROKE,HARPOON OVER LEFTWARDS HARPOON,HARPOON WITH BARB DOWNWARDS",
      "HARPOON WITH BARB UPWARDS,OPEN-HEADED ARROW,PAIRED ARROWS,SQUIGGLE ARROW,TRIPLE ARROW",
      "TWO HEADED ARROW,WAVE ARROW,WHITE ARROW,WHITE ARROW FROM WALL"]),
    ("ROMAN NUMERAL", [
      "EIGHT,ELEVEN,FIFTY,FIFTY EARLY FORM,FIFTY THOUSAND,FIVE,FIVE HUNDRED,FIVE THOUSAND,FOUR",
      "NINE,ONE,ONE HUNDRED,ONE HUNDRED THOUSAND,ONE THOUSAND,ONE THOUSAND C D",
      "REVERSED ONE HUNDRED,SEVEN,SIX,SIX LATE FORM,TEN,TEN THOUSAND,THREE,TWELVE,TWO"]),
    ("SCRIPT CAPITAL", ["B,E,F,H,I,L,M,P,R"]),
    ("SCRIPT SMALL", ["E,G,L,O"]),
    ("SHADOWED WHITE", ["CIRCLE,LATIN CROSS,STAR"]),
    ("SIDEWAYS", [
      "BLACK DOWN POINTING INDEX,BLACK LEFT POINTING INDEX,BLACK RIGHT POINTING INDEX",
      "BLACK UP POINTING INDEX,WHITE DOWN POINTING INDEX,WHITE LEFT POINTING INDEX",
      "WHITE RIGHT POINTING INDEX,WHITE UP POINTING INDEX"]),
    ("SINGLE", [
      "CHARACTER INTRODUCER,GRAPHIC CHARACTER INTRODUCER,HIGH-REVERSED-9 QUOTATION MARK",
      "LEFT-POINTING ANGLE QUOTATION MARK,LOW-9 QUOTATION MARK",
      "RIGHT-POINTING ANGLE QUOTATION MARK,SHIFT THREE,SHIFT TWO"]),
    ("SMALL", [
      "AIRPLANE,BLUE DIAMOND,CONTAINS AS MEMBER,CONTAINS WITH OVERBAR",
      "CONTAINS WITH VERTICAL BAR AT END OF HORIZONTAL STROKE,ELEMENT OF,ELEMENT OF WITH OVERBAR",
      "ELEMENT OF WITH VERTICAL BAR AT END OF HORIZONTAL STROKE,ORANGE DIAMOND"]),
    ("SMALL ROMAN NUMERAL", [
      "EIGHT,ELEVEN,FIFTY,FIVE,FIVE HUNDRED,FOUR,NINE,ONE,ONE HUNDRED,ONE THOUSAND,SEVEN,SIX,TEN",
      "THREE,TWELVE,TWO"]),
    ("SMILING FACE WITH", [
      "HALO,HEART-SHAPED EYES,HORNS,OPEN MOUTH,OPEN MOUTH AND COLD SWEAT",
      "OPEN MOUTH AND SMILING EYES,OPEN MOUTH AND TIGHTLY-CLOSED EYES,SMILING EYES",
      "SMILING EYES AND HAND COVERING MOUTH,SMILING EYES AND THREE HEARTS,SUNGLASSES,TEAR"]),
    ("SQUARE", [
      "CAP,CUP,FOOT,FOUR CORNERS,IMAGE OF,IMAGE OF OR EQUAL TO,IMAGE OF OR NOT EQUAL TO,LOZENGE",
      "ORIGINAL OF,ORIGINAL OF OR EQUAL TO,ORIGINAL OF OR NOT EQUAL TO,ROOT",
      "WITH DIAGONAL CROSSHATCH FILL,WITH HORIZONTAL FILL,WITH LEFT HALF BLACK",
      "WITH LOWER RIGHT DIAGONAL HALF BLACK,WITH ORTHOGONAL CROSSHATCH FILL,WITH RIGHT HALF BLACK",
      "WITH UPPER LEFT DIAGONAL HALF BLACK,WITH UPPER LEFT TO LOWER RIGHT FILL",
      "WITH UPPER RIGHT TO LOWER LEFT FILL,WITH VERTICAL FILL"]),
    ("SQUARED", ["DOT OPERATOR,KEY,MINUS,PLUS,SALTIRE,TIMES"]),
    ("START OF", ["GUARDED AREA,HEADING,PROTECTED AREA,SELECTED AREA,STRING,TEXT"]),
    ("SUBSCRIPT", [
      "EIGHT,EQUALS SIGN,FIVE,FOUR,LEFT PARENTHESIS,MINUS,NINE,ONE,PLUS SIGN,RIGHT PARENTHESIS",
      "SEVEN,SIX,THREE,TWO,ZERO"]),
    ("SUPERSCRIPT", [
      "EIGHT,EQUALS SIGN,FIVE,FOUR,LATIN SMALL LETTER I,LATIN SMALL LETTER N,LEFT PARENTHESIS",
      "MINUS,NINE,ONE,PLUS SIGN,RIGHT PARENTHESIS,SEVEN,SIX,THREE,TWO,ZERO"]),
    ("SYMBOL FOR", [
      "ACKNOWLEDGE,BACKSPACE,BELL,CANCEL,CARRIAGE RETURN,DATA LINK ESCAPE,DELETE,DELETE FORM TWO",
      "DEVICE CONTROL FOUR,DEVICE CONTROL ONE,DEVICE CONTROL THREE,DEVICE CONTROL TWO",
      "END OF MEDIUM,END OF TEXT,END OF TRANSMISSION,END OF TRANSMISSION BLOCK,ENQUIRY,ESCAPE",
      "FILE SEPARATOR,FORM FEED,GROUP SEPARATOR,HORIZONTAL TABULATION,LINE FEED,MARKS CHAPTER",
      "NEGATIVE ACKNOWLEDGE,NEWLINE,NULL,RECORD SEPARATOR,SAMARITAN SOURCE,SHIFT IN,SHIFT OUT",
      "SPACE,START OF HEADING,START OF TEXT,SUBSTITUTE,SUBSTITUTE FORM TWO,SYNCHRONOUS IDLE",
      "UNIT SEPARATOR,VERTICAL TABULATION"]),
    ("TELEPHONE", ["LOCATION SIGN,ON TOP OF MODEM,RECEIVER,RECEIVER WITH PAGE,RECORDER,SIGN"]),
    ("THREE", [
      "BUTTON MOUSE,DOT PUNCTUATION,LINES CONVERGING LEFT,LINES CONVERGING RIGHT",
      "NETWORKED COMPUTERS,RAYS ABOVE,RAYS BELOW,RAYS LEFT,RAYS RIGHT,RIGHTWARDS ARROWS",
      "SPEECH BUBBLES"]),
    ("TOP", [
      "CURLY BRACKET,HALF INTEGRAL,HAT,LEFT CORNER,LEFT CROP,PARENTHESIS,RIGHT CORNER,RIGHT CROP",
      "SQUARE BRACKET,TORTOISE SHELL BRACKET,WITH UPWARDS ARROW ABOVE"]),
    ("TRIGRAM FOR", ["EARTH,FIRE,HEAVEN,LAKE,MOUNTAIN,THUNDER,WATER,WIND"]),
    ("TURNED", [
      "AMPERSAND,BLACK SHOGI PIECE,CAPITAL F,DIGIT THREE,DIGIT TWO,GREEK SMALL LETTER IOTA",
      "NOT SIGN,OK HAND SIGN,SANS-SERIF CAPITAL G,SANS-SERIF CAPITAL L,SANS-SERIF CAPITAL Y",
      "SMALL F,WHITE SHOGI PIECE"]),
    ("UP-POINTING", [
      "AIRPLANE,MILITARY AIRPLANE,RED TRIANGLE,SMALL AIRPLANE,SMALL RED TRIANGLE",
      "TRIANGLE WITH LEFT HALF BLACK,TRIANGLE WITH RIGHT HALF BLACK"]),
    ("UPPER", [
      "BLADE SCISSORS,HALF BLOCK,HALF CIRCLE,HALF INVERSE WHITE CIRCLE",
      "LEFT OR LOWER RIGHT CURLY BRACKET SECTION,LEFT QUADRANT CIRCULAR ARC,LEFT TRIANGLE",
      "ONE EIGHTH BLOCK,RIGHT DROP-SHADOWED WHITE SQUARE",
      "RIGHT OR LOWER LEFT CURLY BRACKET SECTION,RIGHT PENCIL,RIGHT QUADRANT CIRCULAR ARC",
      "RIGHT SHADOWED WHITE CIRCLE,RIGHT SHADOWED WHITE SQUARE,RIGHT TRIANGLE"]),
    ("UPWARDS", [
      "ARROW,ARROW FROM BAR,ARROW LEFTWARDS OF DOWNWARDS ARROW,ARROW WITH DOUBLE STROKE",
      "ARROW WITH TIP LEFTWARDS,ARROW WITH TIP RIGHTWARDS,DASHED ARROW,DOUBLE ARROW",
      "HARPOON WITH BARB LEFTWARDS,HARPOON WITH BARB RIGHTWARDS,PAIRED ARROWS,TWO HEADED ARROW",
      "WHITE ARROW,WHITE ARROW FROM BAR,WHITE ARROW ON PEDESTAL",
      "WHITE ARROW ON PEDESTAL WITH HORIZONTAL BAR,WHITE ARROW ON PEDESTAL WITH VERTICAL BAR",
      "WHITE DOUBLE ARROW,WHITE DOUBLE ARROW ON PEDESTAL"]),
    ("VERTICAL", [
      "ELLIPSIS,FOUR DOTS,LINE,LINE EXTENSION,LINE WITH MIDDLE DOT,MALE WITH STROKE SIGN",
      "TABULATION,TABULATION SET,TRAFFIC LIGHT"]),
    ("VULGAR FRACTION", [
      "FIVE EIGHTHS,FIVE SIXTHS,FOUR FIFTHS,ONE EIGHTH,ONE FIFTH,ONE HALF,ONE NINTH,ONE QUARTER",
      "ONE SEVENTH,ONE SIXTH,ONE TENTH,ONE THIRD,SEVEN EIGHTHS,THREE EIGHTHS,THREE FIFTHS",
      "THREE QUARTERS,TWO FIFTHS,TWO THIRDS,ZERO THIRDS"]),
    ("WHITE", [
      "BULLET,CHESS BISHOP,CHESS KING,CHESS KNIGHT,CHESS PAWN,CHESS QUEEN,CHESS ROOK,CIRCLE",
      "CIRCLE WITH DOT RIGHT,CIRCLE WITH LOWER LEFT QUADRANT,CIRCLE WITH LOWER RIGHT QUADRANT",
      "CIRCLE WITH TWO DOTS,CIRCLE WITH UPPER LEFT QUADRANT,CIRCLE WITH UPPER RIGHT QUADRANT",
      "CLUB SUIT,DIAMOND,DIAMOND CONTAINING BLACK SMALL DIAMOND,DIAMOND IN SQUARE,DIAMOND SUIT",
      "DOWN POINTING BACKHAND INDEX,DOWN POINTING INDEX,DOWN POINTING LEFT HAND INDEX",
      "DOWN-POINTING SMALL TRIANGLE,DOWN-POINTING TRIANGLE,DRAUGHTS KING,DRAUGHTS MAN",
      "EXCLAMATION MARK ORNAMENT,FLAG,FLAG WITH HORIZONTAL MIDDLE BLACK STRIPE,FLORETTE,FLOWER",
      "FOUR POINTED STAR,FROWNING FACE,HARD SHELL FLOPPY DISK,HEART,HEART SUIT,HEAVY CHECK MARK",
      "LATIN CROSS,LEFT LANE MERGE,LEFT POINTING BACKHAND INDEX,LEFT POINTING INDEX",
      "LEFT-POINTING POINTER,LEFT-POINTING SMALL TRIANGLE,LEFT-POINTING TRIANGLE",
      "MEDIUM SMALL SQUARE,MEDIUM SQUARE,NIB,PARALLELOGRAM,PENNANT,QUESTION MARK ORNAMENT",
      "RECTANGLE,RIGHT POINTING BACKHAND INDEX,RIGHT POINTING INDEX,RIGHT-POINTING POINTER",
      "RIGHT-POINTING SMALL TRIANGLE,RIGHT-POINTING TRIANGLE,SCISSORS,SHOGI PIECE,SMALL SQUARE",
      "SMILING FACE,SPADE SUIT,SQUARE,SQUARE BUTTON,SQUARE CONTAINING BLACK SMALL SQUARE",
      "SQUARE WITH CENTRE VERTICAL LINE,SQUARE WITH LOWER LEFT QUADRANT",
      "SQUARE WITH LOWER RIGHT QUADRANT,SQUARE WITH ROUNDED CORNERS",
      "SQUARE WITH UPPER LEFT QUADRANT,SQUARE WITH UPPER RIGHT QUADRANT",
      "SQUARE WITH VERTICAL BISECTING LINE,STAR,SUN,SUN BEHIND CLOUD,SUN BEHIND CLOUD WITH RAIN",
      "SUN WITH RAYS,SUN WITH SMALL CLOUD,TELEPHONE,TOUCHTONE TELEPHONE,TRAPEZIUM",
      "TWO-WAY LEFT WAY TRAFFIC,UP POINTING BACKHAND INDEX,UP POINTING INDEX",
      "UP-POINTING SMALL TRIANGLE,UP-POINTING TRIANGLE,UP-POINTING TRIANGLE WITH DOT",
      "VERTICAL RECTANGLE"])]

/-- A text is the name of a character. -/
def isCharacterName (name : String) : Bool :=
  let name := String.ofList (name.toList.map Char.toUpper)
  characterNames.any fun (first, rest) =>
    let start := if first.isEmpty then "" else first ++ " "
    begins name start &&
      rest.any fun line => (splitAt ',' line).contains (dropStart name start.length)

end Rechristen.Text

/-!
# Latin letters for other characters

The Latin letters and the digits that stand for a character beyond ASCII where a text may have no
others. A dash stands for whatever is no letter or digit.
-/

namespace Stencil.Text

/-- Runs of characters with the first and the last code point and the forms of all of them, separated
by blanks. The form `~` is empty. -/
def latinRuns : List (Nat × Nat × String) :=
  [
    (0xA2, 0xE1,
      "c- ps - y- - ss - -c- a - - ~ -r- - deg - 2 3 - u p - - 1 o - -1-4- -1-2- -3-4- - a a a " ++
      "a a a ae c e e e e i i i i d n o o o o o x o u u u u y th ss a a"),
    (0xE2, 0x121,
      "a a a a ae c e e e e i i i i d n o o o o o - o u u u u y th y a a a a a a c c c c c c c " ++
      "c d d d d e e e e e e e e e e g g g g g g"),
    (0x122, 0x161,
      "g g h h h h i i i i i i i i i i ij ij j j k k k l l l l l l l l l l n n n n n n -n ng " ++
      "ng o o o o o o oe oe r r r r r r s s s s s s s s"),
    (0x162, 0x1A1,
      "t t t t t t u u u u u u u u u u u u w w y y y z z z z z z s b b - b - - - c c d d - d - " ++
      "- - e f f g - - - i k k l - - n n o o o"),
    (0x1A4, 0x1B6, "p p - - - - - t t t t u u - v y y z z"),
    (0x1C4, 0x203,
      "dz dz dz lj lj lj nj nj nj a a i i o o u u u u u u u u u u - a a a a - - - - g g k k o " ++
      "o o o - - j dz dz dz g g - - n n a a - - - - a a a a"),
    (0x204, 0x23C,
      "e e e e i i i i o o o o r r r r u u u u s s t t - - h h - - - - - - a a e e o o o o o o " ++
      "o o y y - - - - - - a c c"),
    (0x253, 0x268, "b o - d d - - - e - - - - - g - - - - - - i"),
    (0x272, 0x272, "n"),
    (0x283, 0x283, "sh"),
    (0x292, 0x292, "zh"),
    (0x2B0, 0x2B8, "h - j r - - - w y"),
    (0x2E1, 0x2E3, "l s x"),
    (0x300, 0x33F,
      "~ ~ ~ ~ ~ ~ ~ ~ ~ ~ ~ ~ ~ ~ ~ ~ ~ ~ ~ ~ ~ ~ ~ ~ ~ ~ ~ ~ ~ ~ ~ ~ ~ ~ ~ ~ ~ ~ ~ ~ ~ ~ ~ ~ " ++
      "~ ~ ~ ~ ~ ~ ~ ~ ~ ~ ~ ~ ~ ~ ~ ~ ~ ~ ~ ~"),
    (0x340, 0x36F,
      "~ ~ ~ ~ ~ ~ ~ ~ ~ ~ ~ ~ ~ ~ ~ ~ ~ ~ ~ ~ ~ ~ ~ ~ ~ ~ ~ ~ ~ ~ ~ ~ ~ ~ ~ ~ ~ ~ ~ ~ ~ ~ ~ ~ " ++
      "~ ~ ~ ~"),
    (0x386, 0x3C5,
      "a - e e i - o - u o i a b g d e z e th i k l m n ks o p r - s t u ph kh ps o i u a e e " ++
      "i u a b g d e z e th i k l m n x o p r s s t u"),
    (0x3C6, 0x3CE, "ph kh ps o i u o u o"),
    (0x400, 0x43F,
      "ie io dj gj ie dz i yi j lj nj tsh kj i u dzh a b v g d e zh z i i k l m n o p r s t u " ++
      "f kh ts ch sh shch - y - e iu ia a b v g d e zh z i i k l m n o p"),
    (0x440, 0x45F,
      "r s t u f kh ts ch sh shch - y - e iu ia ie io dj gj ie dz i yi j lj nj tsh kj i u dzh"),
    (0x490, 0x491, "g- g-"),
    (0x4C1, 0x4C2, "zh zh"),
    (0x4D0, 0x4F9,
      "a a a a - - e e - - - - zh zh z z - - i i i i o o - - - - e e u u u u u u ch ch - - y y"),
    (0x531, 0x556,
      "a b g d e z e e t- zh i l kh ts k h dz gh ch m y n sh o ch- p j r- s v t r ts- w p- k- " ++
      "o f"),
    (0x561, 0x587,
      "a b g d e z e e t- zh i l kh ts k h dz gh ch m y n sh o ch- p j r- s v t r ts- w p- k- " ++
      "o f ew"),
    (0x5D0, 0x5EA, "~ b g d h v z kh t y k k l m m n n s - p p ts ts q r sh t"),
    (0x622, 0x64A,
      "a - w- - y- a b - t th j h kh d dh r z s sh s d t z - g - - - - - - f q k l m n h w - y"),
    (0x660, 0x669, "0 1 2 3 4 5 6 7 8 9"),
    (0x6F0, 0x6F9, "0 1 2 3 4 5 6 7 8 9"),
    (0x966, 0x96F, "0 1 2 3 4 5 6 7 8 9"),
    (0x10D0, 0x10F0,
      "a b g d e v z t- i k l m n o p- zh r s t- u p- k- g- q- sh ch- ts dz ts- ch- kh j h"),
    (0x1AB0, 0x1AEB,
      "~ ~ ~ ~ ~ ~ ~ ~ ~ ~ ~ ~ ~ ~ - ~ ~ ~ ~ ~ ~ ~ ~ ~ ~ ~ ~ ~ ~ ~ ~ ~ ~ ~ ~ ~ ~ ~ ~ ~ ~ ~ ~ ~ " ++
      "~ ~ - - ~ ~ ~ ~ ~ ~ ~ ~ ~ ~ ~ ~"),
    (0x1D2C, 0x1D65,
      "a - b - d e - g h i j k l m n - o - p r t u w a - - - b d e - - - g - k m - o - - - p t " ++
      "u - - v - - - - - - i r u v"),
    (0x1D9C, 0x1DA0, "c - - - f"),
    (0x1DBB, 0x1DFA,
      "z - - - - ~ ~ ~ ~ ~ ~ ~ ~ ~ ~ ~ ~ ~ ~ ~ ~ ~ ~ ~ ~ ~ ~ ~ ~ ~ ~ ~ ~ ~ ~ ~ ~ ~ ~ ~ ~ ~ ~ ~ " ++
      "~ ~ ~ ~ ~ ~ ~ ~ ~ ~ ~ ~ ~ ~ ~ ~ ~ ~ ~ ~"),
    (0x1DFB, 0x1E3A,
      "~ ~ ~ ~ ~ a a b b b b b b c c d d d d d d d d d d e e e e e e e e e e f f g g h h h h h " ++
      "h h h h h i i i i k k k k k k l l l l l"),
    (0x1E3B, 0x1E7A,
      "l l l m m m m m m n n n n n n n n o o o o o o o o p p p p r r r r r r r r s s s s s s s " ++
      "s s s t t t t t t t t u u u u u u u u u"),
    (0x1E7B, 0x1EBA,
      "u v v v v w w w w w w w w w w x x x x y y z z z z z z h t w y - s - - ss - a a a a a a " ++
      "a a a a a a a a a a a a a a a a a a e e e"),
    (0x1EBB, 0x1F00,
      "e e e e e e e e e e e e e i i i i o o o o o o o o o o o o o o o o o o o o o o o o u u u " ++
      "u u u u u u u u u u u y y y y y y y y - - - - - - a"),
    (0x1F01, 0x1F40,
      "a a a a a a a a a a a a a a a e e e e e e - - e e e e e e - - e e e e e e e e e e e e e " ++
      "e e e i i i i i i i i i i i i i i i i o"),
    (0x1F41, 0x1F80,
      "o o o o o - - o o o o o o - - u u u u u u u u - u - u - u - u o o o o o o o o o o o o o " ++
      "o o o a a e e e e i i o o u u o o - - a"),
    (0x1F81, 0x1FC2,
      "a a a a a a a a a a a a a a a e e e e e e e e e e e e e e e e o o o o o o o o o o o o o " ++
      "o o o a a a a a - a a a a a a a - i - - - e"),
    (0x1FC3, 0x1FFC,
      "e e - e e e e e e e - - - i i i i - - i i i i i i - - - - u u u u r r u u u u u u r - - " ++
      "- - - o o o - o o o o o o o"),
    (0x200B, 0x200F, "~ ~ ~ ~ ~"),
    (0x2070, 0x20B1,
      "0 i - - 4 5 6 7 8 9 - - - - - n 0 1 2 3 4 5 6 7 8 9 - - - - - - a e o x - h k l m n p s " ++
      "t - - - - - - - l- - n- - rs w- ns d eur k- t- - - p"),
    (0x20B2, 0x20BF, "g - s c - - - rs l - - r - btc"),
    (0x20D0, 0x20F0, "~ ~ ~ ~ ~ ~ ~ ~ ~ ~ ~ ~ ~ - - - - ~ - - - ~ ~ ~ ~ ~ ~ ~ ~ ~ ~ ~ ~"),
    (0x2100, 0x213B,
      "a-c a-s c -c - c-o c-u - - -f g h h h h - i i l l - n no- - - p q r r r - - -sm- tel " ++
      "-tm- - z - - - z - k a b c - e e f - m o - - - - i - fax"),
    (0x2145, 0x2149, "d d e i j"),
    (0x2160, 0x217F,
      "i ii iii iv v vi vii viii ix x xi xii l c d m i ii iii iv v vi vii viii ix x xi xii l c " ++
      "d m"),
    (0x2194, 0x2199,
      "left-right-arrow- arrow-up-down- arrow-upper-left- arrow-upper-right- " ++
      "arrow-lower-right- arrow-lower-left-"),
    (0x21A9, 0x21AA, "leftwards-arrow-with-hook- arrow-right-hook-"),
    (0x231A, 0x231B, "watch- hourglass-"),
    (0x2328, 0x2328, "keyboard-"),
    (0x23CF, 0x23CF, "eject-button-"),
    (0x23E9, 0x23FA,
      "fast-forward- rewind- arrow-double-up- arrow-double-down- next-track-button- " ++
      "previous-track-button- play-or-pause-button- alarm-clock- stopwatch- timer-clock- " ++
      "hourglass-flowing-sand- - - - - pause-button- stop-button- record-button-"),
    (0x2460, 0x249F,
      "1 2 3 4 5 6 7 8 9 10 11 12 13 14 15 16 17 18 19 20 -1- -2- -3- -4- -5- -6- -7- -8- -9- " ++
      "-10- -11- -12- -13- -14- -15- -16- -17- -18- -19- -20- 1- 2- 3- 4- 5- 6- 7- 8- 9- 10- " ++
      "11- 12- 13- 14- 15- 16- 17- 18- 19- 20- -a- -b- -c- -d-"),
    (0x24A0, 0x24DF,
      "-e- -f- -g- -h- -i- -j- -k- -l- -m- -n- -o- -p- -q- -r- -s- -t- -u- -v- -w- -x- -y- -z- " ++
      "a b c d e f g h i j k l m n o p q r s t u v w x y z a b c d e f g h i j k l m n o p"),
    (0x24E0, 0x24EA, "q r s t u v w x y z 0"),
    (0x25AA, 0x25AB, "black-small-square- white-small-square-"),
    (0x25B6, 0x25B6, "arrow-forward-"),
    (0x25C0, 0x25C0, "arrow-backward-"),
    (0x25FB, 0x2604,
      "white-medium-square- black-medium-square- white-medium-small-square- " ++
      "black-medium-small-square- - sunny- cloud- open-umbrella- snowman-with-snow- comet-"),
    (0x260E, 0x262F,
      "phone- - - ballot-box-with-check- - - umbrella- coffee- - - shamrock- - - - - point-up- " ++
      "- - skull-and-crossbones- - radioactive- biohazard- - - orthodox-cross- - - - " ++
      "star-and-crescent- - - - peace-symbol- yin-yang-"),
    (0x2638, 0x2653,
      "wheel-of-dharma- frowning-face- relaxed- - - - - - female-sign- - male-sign- - - - - - " ++
      "aries- taurus- gemini- cancer- leo- virgo- libra- scorpius- sagittarius- capricorn- " ++
      "aquarius- pisces-"),
    (0x265F, 0x2668, "chess-pawn- spades- - - clubs- - hearts- diamonds- - hotsprings-"),
    (0x267B, 0x267F, "recycle- - - infinity- wheelchair-"),
    (0x2692, 0x26A1,
      "hammer-and-pick- anchor- crossed-swords- medical-symbol- balance-scale- alembic- - " ++
      "gear- - atom-symbol- fleur-de-lis- - - - warning- zap-"),
    (0x26AA, 0x26B1, "white-circle- black-circle- - - - - coffin- funeral-urn-"),
    (0x26BD, 0x26D4,
      "soccer- baseball- - - - - - snowman- partly-sunny- - - cloud-with-lightning-and-rain- - " ++
      "- - - - ophiuchus- pick- - rescue-worker-helmet- - chains- no-entry-"),
    (0x26E9, 0x2728,
      "shinto-shrine- church- - - - - - mountain- parasol-on-ground- fountain- golf- ferry- " ++
      "boat- - skier- ice-skate- bouncing-ball-person- tent- - - fuelpump- - - - - scissors- - " ++
      "- white-check-mark- - - airplane- email- fist- hand- v- writing-hand- - pencil2- - - " ++
      "black-nib- - heavy-check-mark- - heavy-multiplication-x- - - - - - - latin-cross- - - - " ++
      "star-of-david- - - - - - - sparkles-"),
    (0x2733, 0x2734, "eight-spoked-asterisk- eight-pointed-black-star-"),
    (0x2744, 0x2757,
      "snowflake- - - sparkle- - - - - x- - negative-squared-cross-mark- - - - - question- " ++
      "grey-question- grey-exclamation- - exclamation-"),
    (0x2763, 0x2764, "heavy-heart-exclamation- heart-"),
    (0x2795, 0x2797, "heavy-plus-sign- heavy-minus-sign- heavy-division-sign-"),
    (0x27A1, 0x27A1, "arrow-right-"),
    (0x27B0, 0x27B0, "curly-loop-"),
    (0x27BF, 0x27BF, "loop-"),
    (0x2934, 0x2935, "arrow-heading-up- arrow-heading-down-"),
    (0x2B05, 0x2B07, "arrow-left- arrow-up- arrow-down-"),
    (0x2B1B, 0x2B1C, "black-large-square- white-large-square-"),
    (0x2B50, 0x2B55, "star- - - - - o-"),
    (0x2C65, 0x2C65, "a"),
    (0x2C7C, 0x2C7D, "j v"),
    (0x3030, 0x3030, "wavy-dash-"),
    (0x303D, 0x307C,
      "part-alternation-mark- - - - a a i i u u e e o o ka ga ki gi ku gu ke ge ko go sa za " ++
      "shi zi su zu se ze so zo ta da chi di tsu tsu du te de to do na ni nu ne no ha ba pa hi " ++
      "bi pi hu bu pu he be pe ho bo"),
    (0x307D, 0x3096,
      "po ma mi mu me mo ya ya yu yu yo yo ra ri ru re ro wa wa wi we wo n vu ka ke"),
    (0x30A1, 0x30E0,
      "a a i i u u e e o o ka ga ki gi ku gu ke ge ko go sa za shi zi su zu se ze so zo ta da " ++
      "chi di tsu tsu du te de to do na ni nu ne no ha ba pa hi bi pi hu bu pu he be pe ho bo " ++
      "po ma mi mu"),
    (0x30E1, 0x30FC,
      "me mo ya ya yu yu yo yo ra ri ru re ro wa wa wi we wo n vu ka ke va vi ve vo - ~"),
    (0x3250, 0x325F, "pte 21 22 23 24 25 26 27 28 29 30 31 32 33 34 35"),
    (0x3297, 0x3299, "congratulations- - secret-"),
    (0x32B1, 0x32BF, "36 37 38 39 40 41 42 43 44 45 46 47 48 49 50"),
    (0x32CC, 0x32CF, "hg erg ev ltd"),
    (0x3371, 0x33B0,
      "hpa da au bar ov pc dm dm2 dm3 iu - - - - - pa na - ma ka kb mb gb cal kcal pf nf - - " ++
      "mg kg hz khz mhz ghz thz - ml dl kl fm nm - mm cm km mm2 cm2 m2 km2 mm3 cm3 m3 km3 - - " ++
      "pa kpa mpa gpa rad - - ps"),
    (0x33B1, 0x33DD,
      "ns - ms pv nv - mv kv mv pw nw - mw kw mw - - a-m- bq cc cd - co- db gy ha hp in kk km " ++
      "kt lm ln log lx mb mil mol ph p-m- ppm pr sr sv wb"),
    (0x33FF, 0x33FF, "gal"),
    (0xA7F1, 0xA7F4, "s c f q"),
    (0xFB00, 0xFB06, "ff fi fl ffi ffl st st"),
    (0xFE00, 0xFE0F, "~ ~ ~ ~ ~ ~ ~ ~ ~ ~ ~ ~ ~ ~ ~ ~"),
    (0xFE20, 0xFE2F, "~ ~ ~ ~ ~ ~ ~ ~ ~ ~ ~ ~ ~ ~ ~ ~"),
    (0xFF10, 0xFF4F,
      "0 1 2 3 4 5 6 7 8 9 - - - - - - - a b c d e f g h i j k l m n o p q r s t u v w x y z - " ++
      "- - - - - a b c d e f g h i j k l m n o"),
    (0xFF50, 0xFF5A, "p q r s t u v w x y z"),
    (0xFF9E, 0xFF9F, "~ ~"),
    (0x107A5, 0x107A5, "q"),
    (0x1CCD6, 0x1CCF9, "a b c d e f g h i j k l m n o p q r s t u v w x y z 0 1 2 3 4 5 6 7 8 9"),
    (0x1D400, 0x1D43F,
      "a b c d e f g h i j k l m n o p q r s t u v w x y z a b c d e f g h i j k l m n o p q r " ++
      "s t u v w x y z a b c d e f g h i j k l"),
    (0x1D440, 0x1D47F,
      "m n o p q r s t u v w x y z a b c d e f g - i j k l m n o p q r s t u v w x y z a b c d " ++
      "e f g h i j k l m n o p q r s t u v w x"),
    (0x1D480, 0x1D4BF,
      "y z a b c d e f g h i j k l m n o p q r s t u v w x y z a - c d - - g - - j k - - n o p " ++
      "q - s t u v w x y z a b c d - f - h i j"),
    (0x1D4C0, 0x1D4FF,
      "k l m n - p q r s t u v w x y z a b c d e f g h i j k l m n o p q r s t u v w x y z a b " ++
      "c d e f g h i j k l m n o p q r s t u v"),
    (0x1D500, 0x1D540,
      "w x y z a b - d e f g - - j k l m n o p q - s t u v w x y - a b c d e f g h i j k l m n " ++
      "o p q r s t u v w x y z a b - d e f g - i"),
    (0x1D541, 0x1D580,
      "j k l m - o - - - s t u v w x y - a b c d e f g h i j k l m n o p q r s t u v w x y z a " ++
      "b c d e f g h i j k l m n o p q r s t u"),
    (0x1D581, 0x1D5C0,
      "v w x y z a b c d e f g h i j k l m n o p q r s t u v w x y z a b c d e f g h i j k l m " ++
      "n o p q r s t u v w x y z a b c d e f g"),
    (0x1D5C1, 0x1D600,
      "h i j k l m n o p q r s t u v w x y z a b c d e f g h i j k l m n o p q r s t u v w x y " ++
      "z a b c d e f g h i j k l m n o p q r s"),
    (0x1D601, 0x1D640,
      "t u v w x y z a b c d e f g h i j k l m n o p q r s t u v w x y z a b c d e f g h i j k " ++
      "l m n o p q r s t u v w x y z a b c d e"),
    (0x1D641, 0x1D680,
      "f g h i j k l m n o p q r s t u v w x y z a b c d e f g h i j k l m n o p q r s t u v w " ++
      "x y z a b c d e f g h i j k l m n o p q"),
    (0x1D681, 0x1D6A3, "r s t u v w x y z a b c d e f g h i j k l m n o p q r s t u v w x y z"),
    (0x1D7CE, 0x1D7FF,
      "0 1 2 3 4 5 6 7 8 9 0 1 2 3 4 5 6 7 8 9 0 1 2 3 4 5 6 7 8 9 0 1 2 3 4 5 6 7 8 9 0 1 2 3 " ++
      "4 5 6 7 8 9"),
    (0x1F004, 0x1F004, "mahjong-"),
    (0x1F0CF, 0x1F0CF, "black-joker-"),
    (0x1F100, 0x1F13F,
      "0- 0- 1- 2- 3- 4- 5- 6- 7- 8- 9- - - - - - -a- -b- -c- -d- -e- -f- -g- -h- -i- -j- -k- " ++
      "-l- -m- -n- -o- -p- -q- -r- -s- -t- -u- -v- -w- -x- -y- -z- - c r cd wz - a b c d e f g " ++
      "h i j k l m n o p"),
    (0x1F140, 0x1F14F, "q r s t u v w x y z hv mv sd ss ppv wc"),
    (0x1F16A, 0x1F171, "mc md mr - - - a- b-"),
    (0x1F17E, 0x1F17F, "o2- parking-"),
    (0x1F18E, 0x1F19A, "ab- - dj cl- cool- free- id- new- ng- ok- sos- up- vs-"),
    (0x1F1E6, 0x1F202,
      "regional-indicator-a- regional-indicator-b- regional-indicator-c- regional-indicator-d- " ++
      "regional-indicator-e- regional-indicator-f- regional-indicator-g- regional-indicator-h- " ++
      "regional-indicator-i- regional-indicator-j- regional-indicator-k- regional-indicator-l- " ++
      "regional-indicator-m- regional-indicator-n- regional-indicator-o- regional-indicator-p- " ++
      "regional-indicator-q- regional-indicator-r- regional-indicator-s- regional-indicator-t- " ++
      "regional-indicator-u- regional-indicator-v- regional-indicator-w- regional-indicator-x- " ++
      "regional-indicator-y- regional-indicator-z- - koko- sa-"),
    (0x1F21A, 0x1F21A, "u7121-"),
    (0x1F22F, 0x1F23A, "u6307- - - u7981- u7a7a- u5408- u6e80- u6709- u6708- u7533- u5272- u55b6-"),
    (0x1F250, 0x1F251, "ideograph-advantage- accept-"),
    (0x1F300, 0x1F33F,
      "cyclone- foggy- closed-umbrella- night-with-stars- sunrise-over-mountains- sunrise- " ++
      "city-sunset- city-sunrise- rainbow- bridge-at-night- ocean- volcano- milky-way- " ++
      "earth-africa- earth-americas- earth-asia- globe-with-meridians- new-moon- " ++
      "waxing-crescent-moon- first-quarter-moon- moon- full-moon- waning-gibbous-moon- " ++
      "last-quarter-moon- waning-crescent-moon- crescent-moon- new-moon-with-face- " ++
      "first-quarter-moon-with-face- last-quarter-moon-with-face- full-moon-with-face- " ++
      "sun-with-face- star2- stars- thermometer- - - sun-behind-small-cloud- " ++
      "sun-behind-large-cloud- sun-behind-rain-cloud- cloud-with-rain- cloud-with-snow- " ++
      "cloud-with-lightning- tornado- fog- wind-face- hotdog- taco- burrito- chestnut- " ++
      "seedling- evergreen-tree- deciduous-tree- palm-tree- cactus- hot-pepper- tulip- " ++
      "cherry-blossom- rose- hibiscus- sunflower- blossom- corn- ear-of-rice- herb-"),
    (0x1F340, 0x1F37F,
      "four-leaf-clover- maple-leaf- fallen-leaf- leaves- mushroom- tomato- eggplant- grapes- " ++
      "melon- watermelon- tangerine- lemon- banana- pineapple- apple- green-apple- pear- " ++
      "peach- cherries- strawberry- hamburger- pizza- meat-on-bone- poultry-leg- rice-cracker- " ++
      "rice-ball- rice- curry- ramen- spaghetti- bread- fries- sweet-potato- dango- oden- " ++
      "sushi- fried-shrimp- fish-cake- icecream- shaved-ice- ice-cream- doughnut- cookie- " ++
      "chocolate-bar- candy- lollipop- custard- honey-pot- cake- bento- stew- egg- " ++
      "fork-and-knife- tea- sake- wine-glass- cocktail- tropical-drink- beer- beers- " ++
      "baby-bottle- plate-with-cutlery- champagne- popcorn-"),
    (0x1F380, 0x1F3BF,
      "ribbon- gift- birthday- jack-o-lantern- christmas-tree- santa- fireworks- sparkler- " ++
      "balloon- tada- confetti-ball- tanabata-tree- crossed-flags- bamboo- dolls- flags- " ++
      "wind-chime- rice-scene- school-satchel- mortar-board- - - medal-military- " ++
      "reminder-ribbon- - studio-microphone- level-slider- control-knobs- - - film-strip- " ++
      "tickets- carousel-horse- ferris-wheel- roller-coaster- fishing-pole-and-fish- " ++
      "microphone- movie-camera- cinema- headphones- art- tophat- circus-tent- ticket- " ++
      "clapper- performing-arts- video-game- dart- slot-machine- 8ball- game-die- bowling- " ++
      "flower-playing-cards- musical-note- notes- saxophone- guitar- musical-keyboard- " ++
      "trumpet- violin- musical-score- running-shirt-with-sash- tennis- ski-"),
    (0x1F3C0, 0x1F3FF,
      "basketball- checkered-flag- snowboarder- runner- surfer- medal-sports- trophy- " ++
      "horse-racing- football- rugby-football- swimmer- weight-lifting- golfing- motorcycle- " ++
      "racing-car- cricket-game- volleyball- field-hockey- ice-hockey- ping-pong- " ++
      "mountain-snow- camping- beach-umbrella- building-construction- houses- cityscape- " ++
      "derelict-house- classical-building- desert- desert-island- national-park- stadium- " ++
      "house- house-with-garden- office- post-office- european-post-office- hospital- bank- " ++
      "atm- hotel- love-hotel- convenience-store- school- department-store- factory- " ++
      "izakaya-lantern- japanese-castle- european-castle- - - white-flag- black-flag- rosette- " ++
      "- label- badminton- bow-and-arrow- amphora- emoji-modifier-fitzpatrick-type-1-2- " ++
      "emoji-modifier-fitzpatrick-type-3- emoji-modifier-fitzpatrick-type-4- " ++
      "emoji-modifier-fitzpatrick-type-5- emoji-modifier-fitzpatrick-type-6-"),
    (0x1F400, 0x1F43F,
      "rat- mouse2- ox- water-buffalo- cow2- tiger2- leopard- rabbit2- cat2- dragon- " ++
      "crocodile- whale2- snail- snake- racehorse- ram- goat- sheep- monkey- rooster- chicken- " ++
      "dog2- pig2- boar- elephant- octopus- shell- bug- ant- bee- beetle- fish- tropical-fish- " ++
      "blowfish- turtle- hatching-chick- baby-chick- hatched-chick- bird- penguin- koala- " ++
      "poodle- dromedary-camel- camel- flipper- mouse- cow- tiger- rabbit- cat- dragon-face- " ++
      "whale- horse- monkey-face- dog- pig- frog- hamster- wolf- bear- panda-face- pig-nose- " ++
      "feet- chipmunk-"),
    (0x1F440, 0x1F47F,
      "eyes- eye- ear- nose- lips- tongue- point-up-2- point-down- point-left- point-right- " ++
      "facepunch- wave- ok-hand- -1- -1- clap- open-hands- crown- womans-hat- eyeglasses- " ++
      "necktie- shirt- jeans- dress- kimono- bikini- womans-clothes- purse- handbag- pouch- " ++
      "mans-shoe- athletic-shoe- high-heel- sandal- boot- footprints- bust-in-silhouette- " ++
      "busts-in-silhouette- boy- girl- man- woman- family- couple- two-men-holding-hands- " ++
      "two-women-holding-hands- cop- dancers- bride-with-veil- person-with-blond-hair- " ++
      "man-with-gua-pi-mao- man-with-turban- older-man- older-woman- baby- " ++
      "construction-worker- princess- japanese-ogre- japanese-goblin- ghost- angel- alien- " ++
      "space-invader- imp-"),
    (0x1F480, 0x1F4BF,
      "skull- information-desk-person- guardsman- dancer- lipstick- nail-care- massage- " ++
      "haircut- barber- syringe- pill- kiss- love-letter- ring- gem- couplekiss- bouquet- " ++
      "couple-with-heart- wedding- heartbeat- broken-heart- two-hearts- sparkling-heart- " ++
      "heartpulse- cupid- blue-heart- green-heart- yellow-heart- purple-heart- gift-heart- " ++
      "revolving-hearts- heart-decoration- diamond-shape-with-a-dot-inside- bulb- anger- bomb- " ++
      "zzz- boom- sweat-drops- droplet- dash- hankey- muscle- dizzy- speech-balloon- " ++
      "thought-balloon- white-flower- 100- moneybag- currency-exchange- heavy-dollar-sign- " ++
      "credit-card- yen- dollar- euro- pound- money-with-wings- chart- seat- computer- " ++
      "briefcase- minidisc- floppy-disk- cd-"),
    (0x1F4C0, 0x1F4FF,
      "dvd- file-folder- open-file-folder- page-with-curl- page-facing-up- date- calendar- " ++
      "card-index- chart-with-upwards-trend- chart-with-downwards-trend- bar-chart- clipboard- " ++
      "pushpin- round-pushpin- paperclip- straight-ruler- triangular-ruler- bookmark-tabs- " ++
      "ledger- notebook- notebook-with-decorative-cover- closed-book- book- green-book- " ++
      "blue-book- orange-book- books- name-badge- scroll- memo- telephone-receiver- pager- " ++
      "fax- satellite- loudspeaker- mega- outbox-tray- inbox-tray- package- e-mail- " ++
      "incoming-envelope- envelope-with-arrow- mailbox-closed- mailbox- mailbox-with-mail- " ++
      "mailbox-with-no-mail- postbox- postal-horn- newspaper- iphone- calling- vibration-mode- " ++
      "mobile-phone-off- no-mobile-phones- signal-strength- camera- camera-with-flash- " ++
      "video-camera- tv- radio- vhs- film-projector- - prayer-beads-"),
    (0x1F500, 0x1F53D,
      "twisted-rightwards-arrows- repeat- repeat-one- arrows-clockwise- " ++
      "arrows-counterclockwise- low-brightness- high-brightness- mute- speaker- sound- " ++
      "loud-sound- battery- electric-plug- mag- mag-right- lock-with-ink-pen- " ++
      "closed-lock-with-key- key- lock- unlock- bell- no-bell- bookmark- link- radio-button- " ++
      "back- end- on- soon- top- underage- keycap-ten- capital-abcd- abcd- 1234- symbols- abc- " ++
      "fire- flashlight- wrench- hammer- nut-and-bolt- hocho- gun- microscope- telescope- " ++
      "crystal-ball- six-pointed-star- beginner- trident- black-square-button- " ++
      "white-square-button- red-circle- large-blue-circle- large-orange-diamond- " ++
      "large-blue-diamond- small-orange-diamond- small-blue-diamond- small-red-triangle- " ++
      "small-red-triangle-down- arrow-up-small- arrow-down-small-"),
    (0x1F549, 0x1F57A,
      "om- dove- kaaba- mosque- synagogue- menorah- - clock1- clock2- clock3- clock4- clock5- " ++
      "clock6- clock7- clock8- clock9- clock10- clock11- clock12- clock130- clock230- " ++
      "clock330- clock430- clock530- clock630- clock730- clock830- clock930- clock1030- " ++
      "clock1130- clock1230- - - - - - - - candle- mantelpiece-clock- - - hole- " ++
      "business-suit-levitating- detective- dark-sunglasses- spider- spider-web- joystick- " ++
      "man-dancing-"),
    (0x1F587, 0x1F596,
      "paperclips- - - pen- fountain-pen- paintbrush- crayon- - - " ++
      "raised-hand-with-fingers-splayed- - - - - middle-finger- vulcan-salute-"),
    (0x1F5A4, 0x1F5A8, "black-heart- desktop-computer- - - printer-"),
    (0x1F5B1, 0x1F5B2, "computer-mouse- trackball-"),
    (0x1F5BC, 0x1F5C4,
      "framed-picture- - - - - - card-index-dividers- card-file-box- file-cabinet-"),
    (0x1F5D1, 0x1F5D3, "wastebasket- spiral-notepad- spiral-calendar-"),
    (0x1F5DC, 0x1F61B,
      "clamp- old-key- rolled-up-newspaper- - - dagger- - speaking-head- - - - - " ++
      "left-speech-bubble- - - - - - - right-anger-bubble- - - - ballot-box- - - - - - - " ++
      "world-map- mount-fuji- tokyo-tower- statue-of-liberty- map-of-japan- moyai- grinning- " ++
      "grin- joy- smiley- smile- sweat-smile- laughing- innocent- smiling-imp- wink- blush- " ++
      "yum- relieved- heart-eyes- sunglasses- smirk- neutral-face- expressionless- unamused- " ++
      "sweat- pensive- confused- confounded- kissing- kissing-heart- kissing-smiling-eyes- " ++
      "kissing-closed-eyes- stuck-out-tongue-"),
    (0x1F61C, 0x1F64F,
      "stuck-out-tongue-winking-eye- stuck-out-tongue-closed-eyes- disappointed- worried- " ++
      "angry- rage- cry- persevere- triumph- disappointed-relieved- frowning- anguished- " ++
      "fearful- weary- sleepy- tired-face- grimacing- sob- open-mouth- hushed- cold-sweat- " ++
      "scream- astonished- flushed- sleeping- dizzy-face- no-mouth- mask- smile-cat- joy-cat- " ++
      "smiley-cat- heart-eyes-cat- smirk-cat- kissing-cat- pouting-cat- crying-cat-face- " ++
      "scream-cat- slightly-frowning-face- slightly-smiling-face- upside-down-face- roll-eyes- " ++
      "no-good- ok-woman- bow- see-no-evil- hear-no-evil- speak-no-evil- raising-hand- " ++
      "raised-hands- person-frowning- pouting-face- pray-"),
    (0x1F680, 0x1F6BF,
      "rocket- helicopter- steam-locomotive- railway-car- bullettrain-side- bullettrain-front- " ++
      "train2- metro- light-rail- station- tram- tram-car- bus- oncoming-bus- trolleybus- " ++
      "busstop- minibus- ambulance- fire-engine- police-car- oncoming-police-car- taxi- " ++
      "oncoming-taxi- car- oncoming-automobile- blue-car- truck- articulated-lorry- tractor- " ++
      "monorail- mountain-railway- suspension-railway- mountain-cableway- aerial-tramway- " ++
      "ship- rowboat- speedboat- traffic-light- vertical-traffic-light- construction- " ++
      "rotating-light- triangular-flag-on-post- door- no-entry-sign- smoking- no-smoking- " ++
      "put-litter-in-its-place- do-not-litter- potable-water- non-potable-water- bike- " ++
      "no-bicycles- bicyclist- mountain-bicyclist- walking- no-pedestrians- children-crossing- " ++
      "mens- womens- restroom- baby-symbol- toilet- wc- shower-"),
    (0x1F6C0, 0x1F6D5,
      "bath- bathtub- passport-control- customs- baggage-claim- left-luggage- - - - - - " ++
      "couch-and-lamp- sleeping-bed- shopping-bags- bellhop-bell- bed- place-of-worship- " ++
      "stop-sign- shopping-cart- - - hindu-temple-"),
    (0x1F6E0, 0x1F6FA,
      "hammer-and-wrench- shield- oil-drum- motorway- railway-track- motor-boat- - - - " ++
      "small-airplane- - flight-departure- flight-arrival- - - - - - - passenger-ship- " ++
      "kick-scooter- motor-scooter- canoe- sled- flying-saucer- skateboard- auto-rickshaw-"),
    (0x1F7E0, 0x1F7EB,
      "orange-circle- yellow-circle- green-circle- purple-circle- brown-circle- red-square- " ++
      "blue-square- orange-square- yellow-square- green-square- purple-square- brown-square-"),
    (0x1F90D, 0x1F94C,
      "white-heart- brown-heart- pinching-hand- zipper-mouth-face- money-mouth-face- " ++
      "face-with-thermometer- nerd-face- thinking- face-with-head-bandage- robot- hugs- metal- " ++
      "call-me-hand- raised-back-of-hand- fist-left- fist-right- handshake- crossed-fingers- " ++
      "love-you-gesture- cowboy-hat-face- clown-face- nauseated-face- rofl- drooling-face- " ++
      "lying-face- facepalm- sneezing-face- raised-eyebrow- star-struck- zany-face- " ++
      "shushing-face- cursing-face- hand-over-mouth- vomiting-face- exploding-head- " ++
      "pregnant-woman- breast-feeding- palms-up-together- selfie- prince- man-in-tuxedo- " ++
      "mrs-claus- shrug- cartwheeling- juggling-person- person-fencing- - wrestling- " ++
      "person-playing-water-polo- person-playing-handball- diving-mask- wilted-flower- drum- " ++
      "clinking-glasses- tumbler-glass- spoon- goal-net- - 1st-place-medal- 2nd-place-medal- " ++
      "3rd-place-medal- boxing-glove- martial-arts-uniform- curling-stone-"),
    (0x1F94D, 0x1F98C,
      "lacrosse- softball- flying-disc- croissant- avocado- cucumber- bacon- potato- carrot- " ++
      "baguette-bread- green-salad- shallow-pan-of-food- stuffed-flatbread- - glass-of-milk- " ++
      "peanuts- kiwi-fruit- pancakes- dumpling- fortune-cookie- takeout-box- chopsticks- " ++
      "bowl-with-spoon- cup-with-straw- coconut- broccoli- pie- pretzel- cut-of-meat- " ++
      "sandwich- canned-food- leafy-green- mango- moon-cake- bagel- " ++
      "smiling-face-with-three-hearts- yawning-face- - partying-face- woozy-face- hot-face- " ++
      "cold-face- - - - pleading-face- sari- lab-coat- goggles- hiking-boot- flat-shoe- crab- " ++
      "lion- scorpion- turkey- unicorn- eagle- duck- bat- shark- owl- fox-face- butterfly- " ++
      "deer-"),
    (0x1F98D, 0x1F9CD,
      "gorilla- lizard- rhinoceros- shrimp- squid- giraffe- zebra- hedgehog- sauropod- t-rex- " ++
      "cricket- kangaroo- llama- peacock- hippopotamus- parrot- raccoon- lobster- mosquito- " ++
      "microbe- badger- swan- - - sloth- otter- orangutan- skunk- flamingo- oyster- - - - " ++
      "guide-dog- probing-cane- red-hair- curly-hair- bald- white-hair- bone- leg- foot- " ++
      "tooth- superhero- supervillain- safety-vest- ear-with-hearing-aid- " ++
      "motorized-wheelchair- manual-wheelchair- mechanical-arm- mechanical-leg- cheese- " ++
      "cupcake- salt- beverage-box- garlic- onion- falafel- waffle- butter- mate- ice- - - " ++
      "person-standing-"),
    (0x1F9CE, 0x1F9FF,
      "person-kneeling- deaf-person- monocle-face- adult- child- older-adult- bearded-person- " ++
      "woman-with-headscarf- person-in-steamy-room- person-climbing- person-in-lotus-position- " ++
      "mage- fairy- vampire- merperson- elf- genie- zombie- brain- orange-heart- billed-cap- " ++
      "scarf- gloves- coat- socks- red-envelope- firecracker- jigsaw- test-tube- petri-dish- " ++
      "dna- compass- abacus- fire-extinguisher- toolbox- brick- magnet- luggage- " ++
      "lotion-bottle- thread- yarn- safety-pin- teddy-bear- broom- basket- roll-of-paper- " ++
      "soap- sponge- receipt- nazar-amulet-"),
    (0x1FA70, 0x1FA81,
      "ballet-shoes- one-piece-swimsuit- briefs- shorts- - - - - drop-of-blood- " ++
      "adhesive-bandage- stethoscope- - - - - - yo-yo- kite-"),
    (0x1FA90, 0x1FA95, "ringed-planet- chair- razor- axe- diya-lamp- banjo-"),
    (0x1FBF0, 0x1FBF9, "0 1 2 3 4 5 6 7 8 9")
  ]

/-- The letters of the first, the middle and the last sound of a Korean syllable. -/
def koreanSounds : String × String × String :=
  ("g gg n d dd r m b bb s ss ~ j jj c k t p h",
    "a ae ya yae eo e yeo ye o wa wae oe yo u weo we wi yu eu yi i",
    "~ g gg gs n nj nh d l lg lm lb ls lt lp lh m b bs s ss ng j c k t p h")

end Stencil.Text
